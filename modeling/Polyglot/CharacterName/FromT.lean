/-! # Names of characters that begin with T to Z

A list of first words with what may follow each of them. There every entry begins with a letter
that tells how many words are taken from the entry before it: `a` for none, `b` for one and so on.
The words after those are joined by underlines.
-/

namespace Polyglot.CharacterName

/-- The names of several words that begin with T to Z, by their first words. -/
def fromT : List (String × String) :=
  [("TABLE", "aTENNIS_PADDLE_AND_BALL"),
    ("TAG", "aAMPERSAND aAPOSTROPHE aASTERISK aCIRCUMFLEX_ACCENT aCOLON aCOMMA aCOMMERCIAL_AT
     aDIGIT_EIGHT bFIVE bFOUR bNINE bONE bSEVEN bSIX bTHREE bTWO bZERO aDOLLAR_SIGN aEQUALS_SIGN
     aEXCLAMATION_MARK aFULL_STOP aGRAVE_ACCENT aGREATER-THAN_SIGN aHYPHEN-MINUS
     aLATIN_CAPITAL_LETTER_A dB dC dD dE dF dG dH dI dJ dK dL dM dN dO dP dQ dR dS dT dU dV dW dX
     dY dZ bSMALL_LETTER_A dB dC dD dE dF dG dH dI dJ dK dL dM dN dO dP dQ dR dS dT dU dV dW dX
     dY dZ aLEFT_CURLY_BRACKET bPARENTHESIS bSQUARE_BRACKET aLESS-THAN_SIGN aLOW_LINE
     aNUMBER_SIGN aPERCENT_SIGN aPLUS_SIGN aQUESTION_MARK aQUOTATION_MARK aREVERSE_SOLIDUS
     aRIGHT_CURLY_BRACKET bPARENTHESIS bSQUARE_BRACKET aSEMICOLON aSOLIDUS aSPACE aTILDE
     aVERTICAL_LINE"),
    ("TAGALOG", "aLETTER_A bARCHAIC_RA bBA bDA bGA bHA bI bKA bLA bMA bNA bNGA bPA bRA bSA bTA bU
     bWA bYA aSIGN_PAMUDPOD bVIRAMA aVOWEL_SIGN_I cU"),
    ("TAGBANWA", "aLETTER_A bBA bDA bGA bI bKA bLA bMA bNA bNGA bPA bSA bTA bU bWA bYA
     aVOWEL_SIGN_I cU"),
    ("TAI", "aLE_LETTER_A cAI cAUE cE cEE cEH cFA cHA cI cKA cKHA cLA cMA cNA cNGA cO cOO cPA
     cPHA cQA cSA cTA cTHA cTONE-2 cTONE-3 cTONE-4 cTONE-5 cTONE-6 cTSA cTSHA cU cUE cVA cXA cYA
     aTHAM_COMBINING_CRYPTOGRAMMIC_DOT bCONSONANT_SIGN_BA dFINAL_NGA dHIGH_RATHA_OR_LOW_PA
     dLA_TANG_LAI dLOW_PA dMA dMEDIAL_LA eRA dSA bHORA_DIGIT_EIGHT dFIVE dFOUR dNINE dONE dSEVEN
     dSIX dTHREE dTWO dZERO bLETTER_A cBA cDA cEE cGREAT_SA cHIGH_CA dCHA dFA dHA dKA dKHA dKXA
     dPA dPHA dRATHA dSA dSHA dSSA dTA dTHA dYA cI cII cLA cLAE cLLA cLOW_CA dCHA dFA dHA dKA
     dKHA dKXA dPA dPHA dRATHA dSA dTA dTHA dYA cLUE cMA cNA cNGA cNYA cOO cRA cRANA cRATA cRUE
     cU cUU cWA bSIGN_CAANG cDOKMAI cHANG cHOY cKAAN cKAANKUU cKEOW cKHUEN_TONE-3 dTONE-4 dTONE-5
     cKHUEN-LUE_KARAN cMAI_KANG eLAI dSAM dYAMOK cRA_HAAM cREVERSED_ROTATED_RANA cSAKOT cSATKAAN
     cSATKAANKUU cSAWAN cTONE-1 cTONE-2 cWIANG cWIANGWAAK bTHAM_DIGIT_EIGHT dFIVE dFOUR dNINE
     dONE dSEVEN dSIX dTHREE dTWO dZERO bVOWEL_SIGN_A dAA dAE dAI dE dI dII dMAI_SAT dO dOA_ABOVE
     eBELOW dOO dOY dTALL_AA dTHAM_AI dU dUE dUU dUUE aVIET_LETTER_HIGH_BO dCHO dCO dDO dFO dGO
     dHO dKHHO dKHO dKO dLO dMO dNGO dNO dNYO dO dPHO dPO dRO dSO dTHO dTO dVO dYO cLOW_BO dCHO
     dCO dDO dFO dGO dHO dKHHO dKHO dKO dLO dMO dNGO dNO dNYO dO dPHO dPO dRO dSO dTHO dTO dVO
     dYO bMAI_KANG cKHIT bSYMBOL_HO_HOI cKOI_KOI cKON cNUENG cSAM bTONE_MAI_EK dNUENG dSONG dTHO
     bVOWEL_AA cAM cAN cAUE cAY cE cI cIA cO cU cUA cUE cUEA"),
    ("TAKEOUT", "aBOX"),
    ("TAKRI", "aABBREVIATION_SIGN aDIGIT_EIGHT bFIVE bFOUR bNINE bONE bSEVEN bSIX bTHREE bTWO
     bZERO aLETTER_A bAA bAI bARCHAIC_KHA bAU bBA bBHA bCA bCHA bDA bDDA bDDHA bDHA bE bGA bGHA
     bHA bI bII bJA bJHA bKA bKHA bLA bMA bNA bNGA bNNA bNYA bO bPA bPHA bRA bRRA bSA bSHA bTA
     bTHA bTTA bTTHA bU bUU bVA bYA aSIGN_ANUSVARA bNUKTA bVIRAMA bVISARGA aVOWEL_SIGN_AA cAI cAU
     cE cI cII cO cU cUU"),
    ("TALLY", "aMARK_FIVE bONE"),
    ("TAMIL", "aAND_ODD_SIGN aAS_ABOVE_SIGN aAU_LENGTH_MARK aCREDIT_SIGN aCURRENT_SIGN aDAY_SIGN
     aDEBIT_SIGN aDIGIT_EIGHT bFIVE bFOUR bNINE bONE bSEVEN bSIX bTHREE bTWO bZERO
     aDRY_CULTIVATION_SIGN aFRACTION_DOWNSCALING_FACTOR_KIIZH bONE_EIGHTH cEIGHTIETH cFIFTH
     cFORTIETH cHALF-1 cHALF-2 cONE-HUNDRED-AND-SIXTIETH cQUARTER cSIXTEENTH-1 cSIXTEENTH-2
     cSIXTY-FOURTH cTENTH cTHIRTY-SECOND cTHREE-HUNDRED-AND-TWENTIETH cTWENTIETH
     bTHREE_EIGHTIETHS cQUARTERS cSIXTEENTHS cSIXTY-FOURTHS cTWENTIETHS aIN_POSSESSION_SIGN
     aLAND_SIGN aLETTER_A bAA bAI bAU bCA bE bEE bHA bI bII bJA bKA bLA bLLA bLLLA bMA bNA bNGA
     bNNA bNNNA bNYA bO bOO bPA bRA bRRA bSA bSHA bSSA bTA bTTA bU bUU bVA bYA aMONTH_SIGN
     aNUMBER_ONE_HUNDRED cTHOUSAND bSIGN bTEN aOM aPUNCTUATION_END_OF_TEXT aRUPEE_SIGN
     aSALT_PAN_SIGN aSIGN_AAZHAAKKU bANUSVARA bCEVITU bKAACU bKURUNI bKUZHI bMUKKURUNI bMUTHALIYA
     bMUUVUZHAKKU bNEL bPAARAM bPANAM bPATHAKKU bPON bUZHAKKU bVAKAIYARAA bVARAAKAN bVELI bVIRAMA
     bVISARGA aSPENT_SIGN aSTARTING_FROM_SIGN aTOTAL_SIGN aTRADITIONAL_CREDIT_SIGN bNUMBER_SIGN
     aVOWEL_SIGN_AA cAI cAU cE cEE cI cII cO cOO cU cUU aWET_CULTIVATION_SIGN aYEAR_SIGN"),
    ("TANABATA", "aTREE"),
    ("TANGSA", "aDIGIT_EIGHT bFIVE bFOUR bNINE bONE bSEVEN bSIX bTHREE bTWO bZERO aLETTER_AC bAQ
     bAWC bAWQ bAWX bAWZ bAX bAZ bBA bCA bCHA bDA bDHA bEC bEQ bEX bEZ bFA bFINAL_NG bGA bGHA bHA
     bHTA bHTTA bIC bIQ bIX bIZ bKA bKHA bLA bLONG_UEX bMA bMC bMQ bMX bMZ bNA bNGA bNHA bNYA bOC
     bOQ bOX bOZ bPA bPHA bRA bSA bSHA bSHORT_AWX cUEZ bTA bTHA bTSA bUC bUEC bUEQ bUEX bUEZ bUIC
     bUIQ bUIUC bUIUQ bUIUX bUIUZ bUIX bUIZ bUQ bUX bUZ bVC bVQ bVX bVZ bWA bXA bYA bZA"),
    ("TANGUT", "aCOMPONENT-001 aCOMPONENT-002 aCOMPONENT-003 aCOMPONENT-004 aCOMPONENT-005
     aCOMPONENT-006 aCOMPONENT-007 aCOMPONENT-008 aCOMPONENT-009 aCOMPONENT-010 aCOMPONENT-011
     aCOMPONENT-012 aCOMPONENT-013 aCOMPONENT-014 aCOMPONENT-015 aCOMPONENT-016 aCOMPONENT-017
     aCOMPONENT-018 aCOMPONENT-019 aCOMPONENT-020 aCOMPONENT-021 aCOMPONENT-022 aCOMPONENT-023
     aCOMPONENT-024 aCOMPONENT-025 aCOMPONENT-026 aCOMPONENT-027 aCOMPONENT-028 aCOMPONENT-029
     aCOMPONENT-030 aCOMPONENT-031 aCOMPONENT-032 aCOMPONENT-033 aCOMPONENT-034 aCOMPONENT-035
     aCOMPONENT-036 aCOMPONENT-037 aCOMPONENT-038 aCOMPONENT-039 aCOMPONENT-040 aCOMPONENT-041
     aCOMPONENT-042 aCOMPONENT-043 aCOMPONENT-044 aCOMPONENT-045 aCOMPONENT-046 aCOMPONENT-047
     aCOMPONENT-048 aCOMPONENT-049 aCOMPONENT-050 aCOMPONENT-051 aCOMPONENT-052 aCOMPONENT-053
     aCOMPONENT-054 aCOMPONENT-055 aCOMPONENT-056 aCOMPONENT-057 aCOMPONENT-058 aCOMPONENT-059
     aCOMPONENT-060 aCOMPONENT-061 aCOMPONENT-062 aCOMPONENT-063 aCOMPONENT-064 aCOMPONENT-065
     aCOMPONENT-066 aCOMPONENT-067 aCOMPONENT-068 aCOMPONENT-069 aCOMPONENT-070 aCOMPONENT-071
     aCOMPONENT-072 aCOMPONENT-073 aCOMPONENT-074 aCOMPONENT-075 aCOMPONENT-076 aCOMPONENT-077
     aCOMPONENT-078 aCOMPONENT-079 aCOMPONENT-080 aCOMPONENT-081 aCOMPONENT-082 aCOMPONENT-083
     aCOMPONENT-084 aCOMPONENT-085 aCOMPONENT-086 aCOMPONENT-087 aCOMPONENT-088 aCOMPONENT-089
     aCOMPONENT-090 aCOMPONENT-091 aCOMPONENT-092 aCOMPONENT-093 aCOMPONENT-094 aCOMPONENT-095
     aCOMPONENT-096 aCOMPONENT-097 aCOMPONENT-098 aCOMPONENT-099 aCOMPONENT-100 aCOMPONENT-101
     aCOMPONENT-102 aCOMPONENT-103 aCOMPONENT-104 aCOMPONENT-105 aCOMPONENT-106 aCOMPONENT-107
     aCOMPONENT-108 aCOMPONENT-109 aCOMPONENT-110 aCOMPONENT-111 aCOMPONENT-112 aCOMPONENT-113
     aCOMPONENT-114 aCOMPONENT-115 aCOMPONENT-116 aCOMPONENT-117 aCOMPONENT-118 aCOMPONENT-119
     aCOMPONENT-120 aCOMPONENT-121 aCOMPONENT-122 aCOMPONENT-123 aCOMPONENT-124 aCOMPONENT-125
     aCOMPONENT-126 aCOMPONENT-127 aCOMPONENT-128 aCOMPONENT-129 aCOMPONENT-130 aCOMPONENT-131
     aCOMPONENT-132 aCOMPONENT-133 aCOMPONENT-134 aCOMPONENT-135 aCOMPONENT-136 aCOMPONENT-137
     aCOMPONENT-138 aCOMPONENT-139 aCOMPONENT-140 aCOMPONENT-141 aCOMPONENT-142 aCOMPONENT-143
     aCOMPONENT-144 aCOMPONENT-145 aCOMPONENT-146 aCOMPONENT-147 aCOMPONENT-148 aCOMPONENT-149
     aCOMPONENT-150 aCOMPONENT-151 aCOMPONENT-152 aCOMPONENT-153 aCOMPONENT-154 aCOMPONENT-155
     aCOMPONENT-156 aCOMPONENT-157 aCOMPONENT-158 aCOMPONENT-159 aCOMPONENT-160 aCOMPONENT-161
     aCOMPONENT-162 aCOMPONENT-163 aCOMPONENT-164 aCOMPONENT-165 aCOMPONENT-166 aCOMPONENT-167
     aCOMPONENT-168 aCOMPONENT-169 aCOMPONENT-170 aCOMPONENT-171 aCOMPONENT-172 aCOMPONENT-173
     aCOMPONENT-174 aCOMPONENT-175 aCOMPONENT-176 aCOMPONENT-177 aCOMPONENT-178 aCOMPONENT-179
     aCOMPONENT-180 aCOMPONENT-181 aCOMPONENT-182 aCOMPONENT-183 aCOMPONENT-184 aCOMPONENT-185
     aCOMPONENT-186 aCOMPONENT-187 aCOMPONENT-188 aCOMPONENT-189 aCOMPONENT-190 aCOMPONENT-191
     aCOMPONENT-192 aCOMPONENT-193 aCOMPONENT-194 aCOMPONENT-195 aCOMPONENT-196 aCOMPONENT-197
     aCOMPONENT-198 aCOMPONENT-199 aCOMPONENT-200 aCOMPONENT-201 aCOMPONENT-202 aCOMPONENT-203
     aCOMPONENT-204 aCOMPONENT-205 aCOMPONENT-206 aCOMPONENT-207 aCOMPONENT-208 aCOMPONENT-209
     aCOMPONENT-210 aCOMPONENT-211 aCOMPONENT-212 aCOMPONENT-213 aCOMPONENT-214 aCOMPONENT-215
     aCOMPONENT-216 aCOMPONENT-217 aCOMPONENT-218 aCOMPONENT-219 aCOMPONENT-220 aCOMPONENT-221
     aCOMPONENT-222 aCOMPONENT-223 aCOMPONENT-224 aCOMPONENT-225 aCOMPONENT-226 aCOMPONENT-227
     aCOMPONENT-228 aCOMPONENT-229 aCOMPONENT-230 aCOMPONENT-231 aCOMPONENT-232 aCOMPONENT-233
     aCOMPONENT-234 aCOMPONENT-235 aCOMPONENT-236 aCOMPONENT-237 aCOMPONENT-238 aCOMPONENT-239
     aCOMPONENT-240 aCOMPONENT-241 aCOMPONENT-242 aCOMPONENT-243 aCOMPONENT-244 aCOMPONENT-245
     aCOMPONENT-246 aCOMPONENT-247 aCOMPONENT-248 aCOMPONENT-249 aCOMPONENT-250 aCOMPONENT-251
     aCOMPONENT-252 aCOMPONENT-253 aCOMPONENT-254 aCOMPONENT-255 aCOMPONENT-256 aCOMPONENT-257
     aCOMPONENT-258 aCOMPONENT-259 aCOMPONENT-260 aCOMPONENT-261 aCOMPONENT-262 aCOMPONENT-263
     aCOMPONENT-264 aCOMPONENT-265 aCOMPONENT-266 aCOMPONENT-267 aCOMPONENT-268 aCOMPONENT-269
     aCOMPONENT-270 aCOMPONENT-271 aCOMPONENT-272 aCOMPONENT-273 aCOMPONENT-274 aCOMPONENT-275
     aCOMPONENT-276 aCOMPONENT-277 aCOMPONENT-278 aCOMPONENT-279 aCOMPONENT-280 aCOMPONENT-281
     aCOMPONENT-282 aCOMPONENT-283 aCOMPONENT-284 aCOMPONENT-285 aCOMPONENT-286 aCOMPONENT-287
     aCOMPONENT-288 aCOMPONENT-289 aCOMPONENT-290 aCOMPONENT-291 aCOMPONENT-292 aCOMPONENT-293
     aCOMPONENT-294 aCOMPONENT-295 aCOMPONENT-296 aCOMPONENT-297 aCOMPONENT-298 aCOMPONENT-299
     aCOMPONENT-300 aCOMPONENT-301 aCOMPONENT-302 aCOMPONENT-303 aCOMPONENT-304 aCOMPONENT-305
     aCOMPONENT-306 aCOMPONENT-307 aCOMPONENT-308 aCOMPONENT-309 aCOMPONENT-310 aCOMPONENT-311
     aCOMPONENT-312 aCOMPONENT-313 aCOMPONENT-314 aCOMPONENT-315 aCOMPONENT-316 aCOMPONENT-317
     aCOMPONENT-318 aCOMPONENT-319 aCOMPONENT-320 aCOMPONENT-321 aCOMPONENT-322 aCOMPONENT-323
     aCOMPONENT-324 aCOMPONENT-325 aCOMPONENT-326 aCOMPONENT-327 aCOMPONENT-328 aCOMPONENT-329
     aCOMPONENT-330 aCOMPONENT-331 aCOMPONENT-332 aCOMPONENT-333 aCOMPONENT-334 aCOMPONENT-335
     aCOMPONENT-336 aCOMPONENT-337 aCOMPONENT-338 aCOMPONENT-339 aCOMPONENT-340 aCOMPONENT-341
     aCOMPONENT-342 aCOMPONENT-343 aCOMPONENT-344 aCOMPONENT-345 aCOMPONENT-346 aCOMPONENT-347
     aCOMPONENT-348 aCOMPONENT-349 aCOMPONENT-350 aCOMPONENT-351 aCOMPONENT-352 aCOMPONENT-353
     aCOMPONENT-354 aCOMPONENT-355 aCOMPONENT-356 aCOMPONENT-357 aCOMPONENT-358 aCOMPONENT-359
     aCOMPONENT-360 aCOMPONENT-361 aCOMPONENT-362 aCOMPONENT-363 aCOMPONENT-364 aCOMPONENT-365
     aCOMPONENT-366 aCOMPONENT-367 aCOMPONENT-368 aCOMPONENT-369 aCOMPONENT-370 aCOMPONENT-371
     aCOMPONENT-372 aCOMPONENT-373 aCOMPONENT-374 aCOMPONENT-375 aCOMPONENT-376 aCOMPONENT-377
     aCOMPONENT-378 aCOMPONENT-379 aCOMPONENT-380 aCOMPONENT-381 aCOMPONENT-382 aCOMPONENT-383
     aCOMPONENT-384 aCOMPONENT-385 aCOMPONENT-386 aCOMPONENT-387 aCOMPONENT-388 aCOMPONENT-389
     aCOMPONENT-390 aCOMPONENT-391 aCOMPONENT-392 aCOMPONENT-393 aCOMPONENT-394 aCOMPONENT-395
     aCOMPONENT-396 aCOMPONENT-397 aCOMPONENT-398 aCOMPONENT-399 aCOMPONENT-400 aCOMPONENT-401
     aCOMPONENT-402 aCOMPONENT-403 aCOMPONENT-404 aCOMPONENT-405 aCOMPONENT-406 aCOMPONENT-407
     aCOMPONENT-408 aCOMPONENT-409 aCOMPONENT-410 aCOMPONENT-411 aCOMPONENT-412 aCOMPONENT-413
     aCOMPONENT-414 aCOMPONENT-415 aCOMPONENT-416 aCOMPONENT-417 aCOMPONENT-418 aCOMPONENT-419
     aCOMPONENT-420 aCOMPONENT-421 aCOMPONENT-422 aCOMPONENT-423 aCOMPONENT-424 aCOMPONENT-425
     aCOMPONENT-426 aCOMPONENT-427 aCOMPONENT-428 aCOMPONENT-429 aCOMPONENT-430 aCOMPONENT-431
     aCOMPONENT-432 aCOMPONENT-433 aCOMPONENT-434 aCOMPONENT-435 aCOMPONENT-436 aCOMPONENT-437
     aCOMPONENT-438 aCOMPONENT-439 aCOMPONENT-440 aCOMPONENT-441 aCOMPONENT-442 aCOMPONENT-443
     aCOMPONENT-444 aCOMPONENT-445 aCOMPONENT-446 aCOMPONENT-447 aCOMPONENT-448 aCOMPONENT-449
     aCOMPONENT-450 aCOMPONENT-451 aCOMPONENT-452 aCOMPONENT-453 aCOMPONENT-454 aCOMPONENT-455
     aCOMPONENT-456 aCOMPONENT-457 aCOMPONENT-458 aCOMPONENT-459 aCOMPONENT-460 aCOMPONENT-461
     aCOMPONENT-462 aCOMPONENT-463 aCOMPONENT-464 aCOMPONENT-465 aCOMPONENT-466 aCOMPONENT-467
     aCOMPONENT-468 aCOMPONENT-469 aCOMPONENT-470 aCOMPONENT-471 aCOMPONENT-472 aCOMPONENT-473
     aCOMPONENT-474 aCOMPONENT-475 aCOMPONENT-476 aCOMPONENT-477 aCOMPONENT-478 aCOMPONENT-479
     aCOMPONENT-480 aCOMPONENT-481 aCOMPONENT-482 aCOMPONENT-483 aCOMPONENT-484 aCOMPONENT-485
     aCOMPONENT-486 aCOMPONENT-487 aCOMPONENT-488 aCOMPONENT-489 aCOMPONENT-490 aCOMPONENT-491
     aCOMPONENT-492 aCOMPONENT-493 aCOMPONENT-494 aCOMPONENT-495 aCOMPONENT-496 aCOMPONENT-497
     aCOMPONENT-498 aCOMPONENT-499 aCOMPONENT-500 aCOMPONENT-501 aCOMPONENT-502 aCOMPONENT-503
     aCOMPONENT-504 aCOMPONENT-505 aCOMPONENT-506 aCOMPONENT-507 aCOMPONENT-508 aCOMPONENT-509
     aCOMPONENT-510 aCOMPONENT-511 aCOMPONENT-512 aCOMPONENT-513 aCOMPONENT-514 aCOMPONENT-515
     aCOMPONENT-516 aCOMPONENT-517 aCOMPONENT-518 aCOMPONENT-519 aCOMPONENT-520 aCOMPONENT-521
     aCOMPONENT-522 aCOMPONENT-523 aCOMPONENT-524 aCOMPONENT-525 aCOMPONENT-526 aCOMPONENT-527
     aCOMPONENT-528 aCOMPONENT-529 aCOMPONENT-530 aCOMPONENT-531 aCOMPONENT-532 aCOMPONENT-533
     aCOMPONENT-534 aCOMPONENT-535 aCOMPONENT-536 aCOMPONENT-537 aCOMPONENT-538 aCOMPONENT-539
     aCOMPONENT-540 aCOMPONENT-541 aCOMPONENT-542 aCOMPONENT-543 aCOMPONENT-544 aCOMPONENT-545
     aCOMPONENT-546 aCOMPONENT-547 aCOMPONENT-548 aCOMPONENT-549 aCOMPONENT-550 aCOMPONENT-551
     aCOMPONENT-552 aCOMPONENT-553 aCOMPONENT-554 aCOMPONENT-555 aCOMPONENT-556 aCOMPONENT-557
     aCOMPONENT-558 aCOMPONENT-559 aCOMPONENT-560 aCOMPONENT-561 aCOMPONENT-562 aCOMPONENT-563
     aCOMPONENT-564 aCOMPONENT-565 aCOMPONENT-566 aCOMPONENT-567 aCOMPONENT-568 aCOMPONENT-569
     aCOMPONENT-570 aCOMPONENT-571 aCOMPONENT-572 aCOMPONENT-573 aCOMPONENT-574 aCOMPONENT-575
     aCOMPONENT-576 aCOMPONENT-577 aCOMPONENT-578 aCOMPONENT-579 aCOMPONENT-580 aCOMPONENT-581
     aCOMPONENT-582 aCOMPONENT-583 aCOMPONENT-584 aCOMPONENT-585 aCOMPONENT-586 aCOMPONENT-587
     aCOMPONENT-588 aCOMPONENT-589 aCOMPONENT-590 aCOMPONENT-591 aCOMPONENT-592 aCOMPONENT-593
     aCOMPONENT-594 aCOMPONENT-595 aCOMPONENT-596 aCOMPONENT-597 aCOMPONENT-598 aCOMPONENT-599
     aCOMPONENT-600 aCOMPONENT-601 aCOMPONENT-602 aCOMPONENT-603 aCOMPONENT-604 aCOMPONENT-605
     aCOMPONENT-606 aCOMPONENT-607 aCOMPONENT-608 aCOMPONENT-609 aCOMPONENT-610 aCOMPONENT-611
     aCOMPONENT-612 aCOMPONENT-613 aCOMPONENT-614 aCOMPONENT-615 aCOMPONENT-616 aCOMPONENT-617
     aCOMPONENT-618 aCOMPONENT-619 aCOMPONENT-620 aCOMPONENT-621 aCOMPONENT-622 aCOMPONENT-623
     aCOMPONENT-624 aCOMPONENT-625 aCOMPONENT-626 aCOMPONENT-627 aCOMPONENT-628 aCOMPONENT-629
     aCOMPONENT-630 aCOMPONENT-631 aCOMPONENT-632 aCOMPONENT-633 aCOMPONENT-634 aCOMPONENT-635
     aCOMPONENT-636 aCOMPONENT-637 aCOMPONENT-638 aCOMPONENT-639 aCOMPONENT-640 aCOMPONENT-641
     aCOMPONENT-642 aCOMPONENT-643 aCOMPONENT-644 aCOMPONENT-645 aCOMPONENT-646 aCOMPONENT-647
     aCOMPONENT-648 aCOMPONENT-649 aCOMPONENT-650 aCOMPONENT-651 aCOMPONENT-652 aCOMPONENT-653
     aCOMPONENT-654 aCOMPONENT-655 aCOMPONENT-656 aCOMPONENT-657 aCOMPONENT-658 aCOMPONENT-659
     aCOMPONENT-660 aCOMPONENT-661 aCOMPONENT-662 aCOMPONENT-663 aCOMPONENT-664 aCOMPONENT-665
     aCOMPONENT-666 aCOMPONENT-667 aCOMPONENT-668 aCOMPONENT-669 aCOMPONENT-670 aCOMPONENT-671
     aCOMPONENT-672 aCOMPONENT-673 aCOMPONENT-674 aCOMPONENT-675 aCOMPONENT-676 aCOMPONENT-677
     aCOMPONENT-678 aCOMPONENT-679 aCOMPONENT-680 aCOMPONENT-681 aCOMPONENT-682 aCOMPONENT-683
     aCOMPONENT-684 aCOMPONENT-685 aCOMPONENT-686 aCOMPONENT-687 aCOMPONENT-688 aCOMPONENT-689
     aCOMPONENT-690 aCOMPONENT-691 aCOMPONENT-692 aCOMPONENT-693 aCOMPONENT-694 aCOMPONENT-695
     aCOMPONENT-696 aCOMPONENT-697 aCOMPONENT-698 aCOMPONENT-699 aCOMPONENT-700 aCOMPONENT-701
     aCOMPONENT-702 aCOMPONENT-703 aCOMPONENT-704 aCOMPONENT-705 aCOMPONENT-706 aCOMPONENT-707
     aCOMPONENT-708 aCOMPONENT-709 aCOMPONENT-710 aCOMPONENT-711 aCOMPONENT-712 aCOMPONENT-713
     aCOMPONENT-714 aCOMPONENT-715 aCOMPONENT-716 aCOMPONENT-717 aCOMPONENT-718 aCOMPONENT-719
     aCOMPONENT-720 aCOMPONENT-721 aCOMPONENT-722 aCOMPONENT-723 aCOMPONENT-724 aCOMPONENT-725
     aCOMPONENT-726 aCOMPONENT-727 aCOMPONENT-728 aCOMPONENT-729 aCOMPONENT-730 aCOMPONENT-731
     aCOMPONENT-732 aCOMPONENT-733 aCOMPONENT-734 aCOMPONENT-735 aCOMPONENT-736 aCOMPONENT-737
     aCOMPONENT-738 aCOMPONENT-739 aCOMPONENT-740 aCOMPONENT-741 aCOMPONENT-742 aCOMPONENT-743
     aCOMPONENT-744 aCOMPONENT-745 aCOMPONENT-746 aCOMPONENT-747 aCOMPONENT-748 aCOMPONENT-749
     aCOMPONENT-750 aCOMPONENT-751 aCOMPONENT-752 aCOMPONENT-753 aCOMPONENT-754 aCOMPONENT-755
     aCOMPONENT-756 aCOMPONENT-757 aCOMPONENT-758 aCOMPONENT-759 aCOMPONENT-760 aCOMPONENT-761
     aCOMPONENT-762 aCOMPONENT-763 aCOMPONENT-764 aCOMPONENT-765 aCOMPONENT-766 aCOMPONENT-767
     aCOMPONENT-768 aITERATION_MARK"),
    ("TAPE", "aCARTRIDGE aDRIVE"),
    ("TEACUP", "aWITHOUT_HANDLE"),
    ("TEAR-OFF", "aCALENDAR"),
    ("TEARDROP-BARBED", "aRIGHTWARDS_ARROW"),
    ("TEARDROP-SPOKED", "aASTERISK"),
    ("TEDDY", "aBEAR"),
    ("TELEPHONE", "aLOCATION_SIGN aON_TOP_OF_MODEM aRECEIVER bWITH_PAGE aRECORDER aSIGN"),
    ("TELUGU", "aAI_LENGTH_MARK aDIGIT_EIGHT bFIVE bFOUR bNINE bONE bSEVEN bSIX bTHREE bTWO bZERO
     aFRACTION_DIGIT_ONE_FOR_EVEN_POWERS_OF_FOUR eODD_POWERS_OF_FOUR
     cTHREE_FOR_EVEN_POWERS_OF_FOUR eODD_POWERS_OF_FOUR cTWO_FOR_EVEN_POWERS_OF_FOUR
     eODD_POWERS_OF_FOUR cZERO_FOR_ODD_POWERS_OF_FOUR aLENGTH_MARK aLETTER_A bAA bAI bAU bBA bBHA
     bCA bCHA bDA bDDA bDDHA bDHA bDZA bE bEE bGA bGHA bHA bI bII bJA bJHA bKA bKHA bLA bLLA
     bLLLA bMA bNA bNAKAARA_POLLU bNGA bNNA bNYA bO bOO bPA bPHA bRA bRRA bRRRA bSA bSHA bSSA bTA
     bTHA bTSA bTTA bTTHA bU bUU bVA bVOCALIC_L cLL cR cRR bYA aSIGN_ANUSVARA bAVAGRAHA
     bCANDRABINDU bCOMBINING_ANUSVARA_ABOVE cCANDRABINDU_ABOVE bNUKTA bSIDDHAM bTUUMU bVIRAMA
     bVISARGA aVOWEL_SIGN_AA cAI cAU cE cEE cI cII cO cOO cU cUU cVOCALIC_L dLL dR dRR"),
    ("TENGE", "aSIGN"),
    ("TENNIS", "aRACQUET_AND_BALL"),
    ("TEST", "aTUBE"),
    ("TETRAGRAM", "aFOR_ACCUMULATION bADVANCE bAGGRAVATION bASCENT bBARRIER bBOLD_RESOLUTION
     bBRANCHING_OUT bCENTRE bCHANGE bCLOSED_MOUTH bCLOSENESS bCLOSURE bCOMPLETION bCOMPLIANCE
     bCONSTANCY bCONTACT bCONTENTION bCONTRARIETY bDARKENING bDECISIVENESS
     bDEFECTIVENESS_OR_DISTORTION bDEPARTURE bDIFFICULTIES bDIMINISHMENT bDIMMING bDIVERGENCE
     bDOUBT bDUTIES bEASE bEMBELLISHMENT bENCOUNTERS bENDEAVOUR bENLARGEMENT bETERNITY
     bEXHAUSTION bFAILURE bFLIGHT bFOLLOWING bFOSTERING bFULL_CIRCLE bFULLNESS bGATHERING cIN
     bGOING_TO_MEET bGREATNESS bGUARDEDNESS bHARDNESS bHOLDING_BACK bINCREASE bINNER bJOY
     bKEEPING_SMALL bKINSHIP bLABOURING bLAW_OR_MODEL bLEGION bMASSING bMEASURE bMIRED
     bON_THE_VERGE bOPPOSITION bPACKING bPATTERN bPENETRATION bPURITY bREACH bRELEASE bRESIDENCE
     bRESISTANCE bRESPONSE bRITUAL bSEVERANCE bSINKING bSTOPPAGE bSTOVE bSTRENGTH bUNITY
     bVASTNESS_OR_WASTING bWAITING bWATCH bYOUTHFULNESS"),
    ("THAANA", "aAABAAFILI aABAFILI aEBEFILI aEEBEEFILI aEYBEYFILI aIBIFILI aLETTER_AINU bALIFU
     bBAA bCHAVIYANI bDAADHU bDAVIYANI bDHAALU bFAAFU bGAAFU bGHAINU bGNAVIYANI bHAA bHHAA
     bJAVIYANI bKAAFU bKHAA bLAAMU bLHAVIYANI bMEEMU bNAA bNOONU bPAVIYANI bQAAFU bRAA bSAADHU
     bSEENU bSHAVIYANI bSHEENU bTAVIYANI bTHAA bTHAALU bTO bTTAA bVAAVU bWAAVU bYAA bZAA
     bZAVIYANI bZO aOABOAFILI aOBOFILI aOOBOOFILI aSUKUN aUBUFILI"),
    ("THAI", "aCHARACTER_ANGKHANKHU bBO_BAIMAI bCHO_CHAN cCHANG cCHING cCHOE bDO_CHADA cDEK
     bFO_FA cFAN bFONGMAN bHO_HIP cNOKHUK bKHO_KHAI cKHON cKHUAT cKHWAI cRAKHANG bKHOMUT bKO_KAI
     bLAKKHANGYAO bLO_CHULA cLING bLU bMAI_CHATTAWA cEK cHAN-AKAT cTHO cTRI bMAITAIKHU bMAIYAMOK
     bMO_MA bNGO_NGU bNIKHAHIT bNO_NEN cNU bO_ANG bPAIYANNOI bPHINTHU bPHO_PHAN cPHUNG cSAMPHAO
     bPO_PLA bRO_RUA bRU bSARA_A cAA cAE cAI_MAIMALAI dMAIMUAN cAM cE cI cII cO cU cUE cUEE cUU
     bSO_RUSI cSALA cSO cSUA bTHANTHAKHAT bTHO_NANGMONTHO cPHUTHAO cTHAHAN cTHAN cTHONG cTHUNG
     bTO_PATAK cTAO bWO_WAEN bYAMAKKAN bYO_YAK cYING aCURRENCY_SYMBOL_BAHT aDIGIT_EIGHT bFIVE
     bFOUR bNINE bONE bSEVEN bSIX bTHREE bTWO bZERO"),
    ("THERE", "aDOES_NOT_EXIST aEXISTS"),
    ("THIN", "aGREEK_CROSS aSALTIRE aSPACE"),
    ("THINKING", "aFACE"),
    ("THIRD", "aPLACE_MEDAL"),
    ("THONG", "aSANDAL"),
    ("THOUGHT", "aBALLOON"),
    ("THREE", "aBUTTON_MOUSE aCONSECUTIVE_EQUALS_SIGNS aDIMENSIONAL_ANGLE aDOT_PUNCTUATION
     aLEFTWARDS_ARROWS aLINES_CONVERGING_LEFT cRIGHT aNETWORKED_COMPUTERS aPOINTED_BLACK_STAR
     aRAYS_ABOVE bBELOW bLEFT bRIGHT aRIGHTWARDS_ARROWS aSPEECH_BUBBLES"),
    ("THREE-D", "aBOTTOM-LIGHTED_RIGHTWARDS_ARROWHEAD
     aLEFT-LIGHTED_DOWNWARDS_EQUILATERAL_ARROWHEAD aRIGHT-LIGHTED_UPWARDS_EQUILATERAL_ARROWHEAD
     aTOP-LIGHTED_LEFTWARDS_EQUILATERAL_ARROWHEAD bRIGHTWARDS_ARROWHEAD cEQUILATERAL_ARROWHEAD"),
    ("THREE-EM", "aDASH"),
    ("THREE-PER-EM", "aSPACE"),
    ("THUMBS", "aDOWN_SIGN aUP_SIGN"),
    ("THUNDER", "aCLOUD_AND_RAIN"),
    ("TIBETAN", "aASTROLOGICAL_SIGN_-KHYUD_PA cSDONG_TSHUGS cSGRA_GCAN_-CHAR_RTAGS
     aCANTILLATION_SIGN_CANG_TE-U cHEAVY_BEAT cLIGHT_BEAT cSBUB_-CHAL aDIGIT_EIGHT bFIVE bFOUR
     bHALF_EIGHT cFIVE cFOUR cNINE cONE cSEVEN cSIX cTHREE cTWO cZERO bNINE bONE bSEVEN bSIX
     bTHREE bTWO bZERO aKU_RU_KHA dBZHI_MIG_CAN aLETTER_-A bA bBA bBHA bCA bCHA bDA bDDA bDDHA
     bDHA bDZA bDZHA bFIXED-FORM_RA bGA bGHA bHA bJA bKA bKHA bKKA bKSSA bLA bMA bNA bNGA bNNA
     bNYA bPA bPHA bRA bRRA bSA bSHA bSSA bTA bTHA bTSA bTSHA bTTA bTTHA bWA bYA bZA bZHA
     aLOGOTYPE_SIGN_CHAD_RTAGS cLHAG_RTAGS aMARK_ANG_KHANG_GYAS dGYON bBKA-_SHOG_GI_MGO_RGYAN
     dYIG_MGO bBSDUS_RTAGS bBSKA-_SHOG_GI_MGO_RGYAN bBSKUR_YIG_MGO
     bCARET_-DZUD_RTAGS_BZHI_MIG_CAN eME_LONG_CAN cYIG_MGO_PHUR_SHAD_MA bCHE_MGO
     bCLOSING_BRDA_RNYING_YIG_MGO_SGAB_MA cYIG_MGO_SGAB_MA bDELIMITER_TSHEG_BSTAR bGTER_TSHEG
     cYIG_MGO_-UM_GTER_TSHEG_MA fRNAM_BCAD_MA eTRUNCATED_A bGUG_RTAGS_GYAS dGYON bHALANTA
     bINITIAL_BRDA_RNYING_YIG_MGO_MDUN_MA cYIG_MGO_MDUN_MA bINTERSYLLABIC_TSHEG
     bLEADING_MCHAN_RTAGS bMNYAM_YIG_GI_MGO_RGYAN bNGAS_BZUNG_NYI_ZLA dSGOR_RTAGS bNYIS_SHAD
     cTSHEG dSHAD bPALUTA bRGYA_GRAM_SHAD bRIN_CHEN_SPUNGS_SHAD bSBRUL_SHAD bSHAD
     bTRAILING_MCHAN_RTAGS bTSA_-PHRU bTSHEG_SHAD bYIG_MGO_TSHEG_SHAD_MA aSIGN_GRU_CAN_RGYINGS
     cMED_RGYINGS bINVERTED_MCHU_CAN bLCE_TSA_CAN bLCI_RTAGS bMAR_TSHES bMCHU_CAN bNYI_ZLA_NAA_DA
     bRDEL_DKAR_GCIG dGNYIS dGSUM dRDEL_NAG cNAG_GCIG dGNYIS dGSUM dRDEL_DKAR bRJES_SU_NGA_RO
     bRNAM_BCAD bSNA_LDAN bYANG_RTAGS bYAR_TSHES aSUBJOINED_LETTER_-A cA cBA cBHA cCA cCHA cDA
     cDDA cDDHA cDHA cDZA cDZHA cFIXED-FORM_RA dWA dYA cGA cGHA cHA cJA cKA cKHA cKSSA cLA cMA
     cNA cNGA cNNA cNYA cPA cPHA cRA cSA cSHA cSSA cTA cTHA cTSA cTSHA cTTA cTTHA cWA cYA cZA
     cZHA bSIGN_INVERTED_MCHU_CAN cLCE_TSA_CAN cMCHU_CAN aSYLLABLE_OM aSYMBOL_DRIL_BU bNOR_BU
     dBZHI_-KHYIL dGSUM_-KHYIL dNYIS_-KHYIL bPADMA_GDAN bPHUR_PA bRDO_RJE dRGYA_GRAM
     aVOWEL_SIGN_AA cE cEE cI cII cO cOO cREVERSED_I dII cU cUU cVOCALIC_L dLL dR dRR"),
    ("TIE", "aOVER_INFINITY"),
    ("TIFINAGH", "aCONSONANT_JOINER aLETTER_AHAGGAR_YAZH bAYER_YAGH bBERBER_ACADEMY_YAH dYAJ
     bTAWELLEMET_YAZ bTUAREG_YAGH cYAGN cYAH cYAK cYAKH cYANG cYAQ cYAZH bYA bYAA bYAB bYABH
     bYACH bYAD bYADD bYADDH bYADH bYAF bYAG bYAGH bYAGHH bYAH bYAHH bYAJ bYAK bYAKH bYAKHH bYAL
     bYAM bYAN bYAP bYAQ bYAR bYARR bYAS bYASH bYASS bYAT bYATH bYATT bYAV bYAW bYAY bYAZ bYAZH
     bYAZZ bYE bYEY bYI bYO bYU aMODIFIER_LETTER_LABIALIZATION_MARK aSEPARATOR_MARK"),
    ("TIGER", "a aFACE"),
    ("TIGHT", "aTRIFOLIATE_SNOWFLAKE"),
    ("TILDE", "a aOPERATOR bABOVE_LEFTWARDS_ARROW cRIGHTWARDS_ARROW bWITH_DOT_ABOVE cRISING_DOTS
     aWITH_DOT_ABOVE cBELOW bRING_ABOVE"),
    ("TIMER", "aCLOCK"),
    ("TIMES", "aWITH_LEFT_HALF_BLACK bRIGHT_HALF_BLACK"),
    ("TINY", "a aTWO_DOTS_OVER_ONE_DOT_PUNCTUATION"),
    ("TIRED", "aFACE"),
    ("TIRHUTA", "aABBREVIATION_SIGN aANJI aDIGIT_EIGHT bFIVE bFOUR bNINE bONE bSEVEN bSIX bTHREE
     bTWO bZERO aGVANG aLETTER_A bAA bAI bAU bBA bBHA bCA bCHA bDA bDDA bDDHA bDHA bE bGA bGHA
     bHA bI bII bJA bJHA bKA bKHA bLA bMA bNA bNGA bNNA bNYA bO bPA bPHA bRA bSA bSHA bSSA bTA
     bTHA bTTA bTTHA bU bUU bVA bVOCALIC_L cLL cR cRR bYA aOM aSIGN_ANUSVARA bAVAGRAHA
     bCANDRABINDU bNUKTA bVIRAMA bVISARGA aVOWEL_SIGN_AA cAI cAU cE cI cII cO cSHORT_E dO cU cUU
     cVOCALIC_L dLL dR dRR"),
    ("TIRONIAN", "aSIGN_CAPITAL_ET bET"),
    ("TOKYO", "aTOWER"),
    ("TOP", "aARC_ANTICLOCKWISE_ARROW dWITH_PLUS bCLOCKWISE_ARROW_WITH_MINUS aCURLY_BRACKET
     aHALF_BLACK_CIRCLE bINTEGRAL bLEFT_PARENTHESIS bRIGHT_PARENTHESIS bSECTION_SIGN aHAT
     aLEFT_CORNER bCROP bHALF_BRACKET aPARENTHESIS aRIGHT_CORNER bCROP bHALF_BRACKET
     aSQUARE_BRACKET aTORTOISE_SHELL_BRACKET aWITH_UPWARDS_ARROW_ABOVE"),
    ("TORTOISE", "aSHELL_BRACKETED_CJK_UNIFIED_IDEOGRAPH-4E09 eIDEOGRAPH-4E8C eIDEOGRAPH-52DD
     eIDEOGRAPH-5B89 eIDEOGRAPH-6253 eIDEOGRAPH-6557 eIDEOGRAPH-672C eIDEOGRAPH-70B9
     eIDEOGRAPH-76D7 cLATIN_CAPITAL_LETTER_S"),
    ("TOTAL", "aRUNOUT"),
    ("TOTO", "aLETTER_A bAE bBA bBREATHY_AE cE cEO cI cIU bCHA bDA bE bEO bGA bHA bI bIU bJA bKA
     bLA bMA bNA bNGA bO bPA bRA bSA bTA bU bWA bYA aSIGN_RISING_TONE"),
    ("TRADE", "aMARK_SIGN"),
    ("TRAM", "a aCAR"),
    ("TRANSVERSAL", "aINTERSECTION"),
    ("TRIANGLE", "aWITH_DOT_ABOVE bROUNDED_CORNERS bSERIFS_AT_BOTTOM bUNDERBAR"),
    ("TRIANGLE-HEADED", "aRIGHTWARDS_ARROW"),
    ("TRIANGULAR", "aBULLET aFLAG_ON_POST aRULER"),
    ("TRIDENT", "aEMBLEM"),
    ("TRIGRAM", "aFOR_EARTH bFIRE bHEAVEN bLAKE bMOUNTAIN bTHUNDER bWATER bWIND"),
    ("TRIPLE", "aCOLON_OPERATOR aDAGGER aHORIZONTAL_BAR_WITH_DOUBLE_VERTICAL_STROKE
     dTRIPLE_VERTICAL_STROKE aINTEGRAL aNESTED_GREATER-THAN bLESS-THAN aPLUS aPRIME
     aSOLIDUS_BINARY_RELATION aTILDE aVERTICAL_BAR_BINARY_RELATION cDELIMITER cRIGHT_TURNSTILE
     cWITH_HORIZONTAL_STROKE"),
    ("TROPICAL", "aDRINK aFISH"),
    ("TRUE", "a aLIGHT_MOON_ARTA"),
    ("TUGRIK", "aSIGN"),
    ("TUMBLER", "aGLASS"),
    ("TURKISH", "aLIRA_SIGN"),
    ("TURNED", "aAMPERSAND aANGLE aBLACK_PENTAGON bSHOGI_PIECE aCAPITAL_F aCOMMA aDAGGER
     aDIGIT_THREE bTWO aGREEK_SMALL_LETTER_IOTA aNORTH_EAST_POINTING_LEAF bWEST_POINTING_LEAF
     aNOT_SIGN aOK_HAND_SIGN aSANS-SERIF_CAPITAL_G cL cY aSEMICOLON aSMALL_F
     aSOUTH_EAST_POINTING_LEAF bWEST_POINTING_LEAF aWHITE_SHOGI_PIECE"),
    ("TWELVE", "aPOINTED_BLACK_STAR"),
    ("TWISTED", "aRIGHTWARDS_ARROWS"),
    ("TWO", "aASTERISKS_ALIGNED_VERTICALLY aBUTTON_MOUSE aCONSECUTIVE_EQUALS_SIGNS aDOT_LEADER
     bPUNCTUATION aDOTS_OVER_ONE_DOT_PUNCTUATION aHEARTS aINTERSECTING_LOGICAL_AND cOR
     aJOINED_SQUARES aLOGICAL_AND_OPERATOR bOR_OPERATOR aMEN_HOLDING_HANDS aSPEECH_BUBBLES
     aWOMEN_HOLDING_HANDS"),
    ("TWO-EM", "aDASH"),
    ("UGARITIC", "aLETTER_AIN bALPA bBETA bDELTA bDHAL bGAMLA bGHAIN bHO bHOTA bI bKAF bKHA
     bLAMDA bMEM bNUN bPU bQOPA bRASHA bSADE bSAMKA bSHIN bSSU bTET bTHANNA bTO bU bWO bYOD bZETA
     bZU aWORD_DIVIDER"),
    ("UMBRELLA", "a aON_GROUND aWITH_RAIN_DROPS"),
    ("UNAMUSED", "aFACE"),
    ("UNCERTAINTY", "aSIGN"),
    ("UNDO", "aSYMBOL"),
    ("UNICORN", "aFACE"),
    ("UNION", "a aABOVE_BAR_ABOVE_INTERSECTION bINTERSECTION aBESIDE_AND_JOINED_WITH_UNION
     aWITH_LOGICAL_OR bMINUS_SIGN bOVERBAR"),
    ("UNIT", "aSEPARATOR"),
    ("UNITED", "aSYMBOL"),
    ("UNIVERSAL", "aRECYCLING_SYMBOL"),
    ("UNMARRIED", "aPARTNERSHIP_SYMBOL"),
    ("UP", "aARROW_THROUGH_CIRCLE aARROWHEAD bBETWEEN_TWO_HORIZONTAL_BARS bIN_A_RECTANGLE_BOX
     aBARB_LEFT_DOWN_BARB_LEFT_HARPOON eRIGHT_HARPOON bRIGHT_DOWN_BARB_LEFT_HARPOON
     eRIGHT_HARPOON aDOWN_ARROW cWITH_BASE bBLACK_ARROW bDOUBLE_ARROW bSANS-SERIF_ARROW
     bTRIANGLE-HEADED_ARROW bWHITE_ARROW aFISH_TAIL aRIGHT_DIAGONAL_ELLIPSIS aTACK
     bWITH_CIRCLE_ABOVE"),
    ("UP-POINTING", "aAIRPLANE aMILITARY_AIRPLANE aRED_TRIANGLE aSMALL_AIRPLANE bRED_TRIANGLE
     aTRIANGLE_WITH_LEFT_HALF_BLACK cRIGHT_HALF_BLACK"),
    ("UPPER", "aAND_LEFT_AND_LOWER_TRIANGULAR_THREE_QUARTERS_BLOCK bLOWER_ONE_EIGHTH_BLOCK
     cTRIANGULAR_HALF_BLOCK bRIGHT_AND_LOWER_TRIANGULAR_THREE_QUARTERS_BLOCK aBLADE_SCISSORS
     aFIVE_EIGHTHS_BLOCK aHALF_BLOCK cAND_LOWER_HALF_INVERSE_MEDIUM_SHADE bCIRCLE
     bINVERSE_MEDIUM_SHADE_AND_LOWER_HALF_BLOCK cWHITE_CIRCLE bMEDIUM_SHADE
     aLEFT_BLOCK_DIAGONAL_LOWER_CENTRE_TO_LOWER_MIDDLE_RIGHT gUPPER_MIDDLE_RIGHT hRIGHT
     eLEFT_TO_LOWER_MIDDLE_RIGHT gUPPER_CENTRE hMIDDLE_RIGHT eMIDDLE_LEFT_TO_UPPER_CENTRE
     iMIDDLE_RIGHT iRIGHT dUPPER_MIDDLE_LEFT_TO_UPPER_CENTRE iRIGHT bCORNER_WITH_DOT
     bOR_LOWER_RIGHT_CURLY_BRACKET_SECTION bQUADRANT_CIRCULAR_ARC bTO_LOWER_RIGHT_FILL bTRIANGLE
     bTRIANGULAR_MEDIUM_SHADE aONE_EIGHTH_BLOCK bQUARTER_BLOCK
     aRIGHT_BLOCK_DIAGONAL_LOWER_MIDDLE_LEFT_TO_LOWER_CENTRE iRIGHT
     dUPPER_CENTRE_TO_LOWER_MIDDLE_RIGHT hRIGHT gUPPER_MIDDLE_RIGHT eLEFT_TO_LOWER_CENTRE
     hMIDDLE_RIGHT gUPPER_MIDDLE_RIGHT eMIDDLE_LEFT_TO_LOWER_CENTRE iMIDDLE_RIGHT iRIGHT
     bDROP-SHADOWED_WHITE_SQUARE bOR_LOWER_LEFT_CURLY_BRACKET_SECTION bPENCIL
     bQUADRANT_CIRCULAR_ARC bSHADOWED_WHITE_CIRCLE dSQUARE bTO_LOWER_LEFT_FILL bTRIANGLE
     bTRIANGULAR_MEDIUM_SHADE aSEVEN_EIGHTHS_BLOCK aTHREE_EIGHTHS_BLOCK bQUARTERS_BLOCK
     aTRIANGULAR_ONE_QUARTER_BLOCK"),
    ("UPSIDE-DOWN", "aFACE"),
    ("UPWARDS", "aANCORA aARROW bAND_RIGHT_ONE_EIGHTH_BLOCK bFROM_BAR
     bLEFTWARDS_OF_DOWNWARDS_ARROW bTO_BAR bWITH_DOUBLE_STROKE cEQUILATERAL_ARROWHEAD
     cHORIZONTAL_STROKE cLARGE_TRIANGLE_ARROWHEAD cMEDIUM_TRIANGLE_ARROWHEAD cNOTCHED_TAIL
     cSMALL_EQUILATERAL_ARROWHEAD dTRIANGLE_ARROWHEAD cTIP_LEFTWARDS dRIGHTWARDS aBLACK_ARROW
     bCIRCLED_WHITE_ARROW aCOMPRESSED_ARROW aDASHED_ARROW aDOUBLE_ARROW aFINGER-POST_ARROW
     aHARPOON_WITH_BARB_LEFT_BESIDE_DOWNWARDS_HARPOON_WITH_BARB_RIGHT
     fUPWARDS_HARPOON_WITH_BARB_RIGHT eFROM_BAR eTO_BAR dLEFTWARDS dRIGHT_FROM_BAR eTO_BAR
     dRIGHTWARDS aHEAVY_ARROW bCOMPRESSED_ARROW aPAIRED_ARROWS aQUADRUPLE_ARROW aROCKET
     aSANS-SERIF_ARROW aSQUARED_ARROW aTRIANGLE_ARROWHEAD aTRIANGLE-HEADED_ARROW
     cLEFTWARDS_OF_DOWNWARDS_TRIANGLE-HEADED_ARROW cTO_BAR cWITH_BOLD_SHAFT
     dDOUBLE_HORIZONTAL_STROKE dHEAVY_SHAFT dLONG_TIP_LEFTWARDS fRIGHTWARDS dMEDIUM_SHAFT
     dNARROW_SHAFT dVERY_HEAVY_SHAFT bDASHED_ARROW bPAIRED_ARROWS aTRIPLE_ARROW aTWO_HEADED_ARROW
     aTWO-HEADED_ARROW_FROM_SMALL_CIRCLE cWITH_TRIANGLE_ARROWHEADS aWHITE_ARROW cFROM_BAR
     eWITH_HORIZONTAL_BAR cON_PEDESTAL eWITH_HORIZONTAL_BAR fVERTICAL_BAR
     cWITHIN_TRIANGLE_ARROWHEAD bDOUBLE_ARROW dON_PEDESTAL"),
    ("VAI", "aCOMMA aDIGIT_EIGHT bFIVE bFOUR bNINE bONE bSEVEN bSIX bTHREE bTWO bZERO aFULL_STOP
     aQUESTION_MARK aSYLLABLE_A bAN bBA bBE bBEE bBHA bBHE bBHEE bBHI bBHO bBHOO bBHU bBI bBO
     bBOO bBU bCA bCE bCEE bCI bCO bCOO bCU bDA bDE bDEE bDHA bDHE bDHEE bDHHA bDHHE bDHHEE bDHHI
     bDHHO bDHHOO bDHHU bDHI bDHO bDHOO bDHU bDI bDO bDOO bDU bE bEE bEEN bEN bFA bFE bFEE bFI
     bFO bFOO bFU bGA bGBA bGBE bGBEE bGBEN bGBI bGBO bGBON bGBOO bGBU bGE bGEE bGEN bGI bGO bGOO
     bGU bHA bHAN bHE bHEE bHEN bHI bHIN bHO bHON bHOO bHU bHUN bI bIN bJA bJE bJEE bJI bJO bJOO
     bJU bKA bKAN bKE bKEE bKI bKO bKOO bKPA bKPAN bKPE bKPEE bKPEN bKPI bKPO bKPOO bKPU bKU bLA
     bLE bLEE bLENGTHENER bLI bLO bLOO bLU bMA bMBA bMBE bMBEE bMBI bMBO bMBOO bMBU bME bMEE
     bMGBA bMGBE bMGBEE bMGBI bMGBO bMGBOO bMGBU bMI bMO bMOO bMU bNA bNDA bNDE bNDEE bNDI bNDO
     bNDOLE_DO cFA cKA cMA cSOO bNDOO bNDU bNE bNEE bNG bNGAN bNGEN bNGGA bNGGE bNGGEE bNGGEN
     bNGGI bNGGO bNGGOO bNGGU bNGON bNI bNJA bNJE bNJEE bNJI bNJO bNJOO bNJU bNO bNOO bNU bNYA
     bNYE bNYEE bNYI bNYO bNYOO bNYU bO bON bOO bOON bPA bPE bPEE bPI bPO bPOO bPU bRA bRE bREE
     bRI bRO bROO bRU bSA bSE bSEE bSHA bSHE bSHEE bSHI bSHO bSHOO bSHU bSI bSO bSOO bSU bTA bTE
     bTEE bTHA bTHE bTHEE bTHI bTHO bTHOO bTHU bTI bTO bTOO bTU bU bUN bVA bVE bVEE bVI bVO bVOO
     bVU bWA bWAN bWE bWEE bWEEN bWEN bWI bWIN bWO bWON bWOO bWOON bWU bWUN bYA bYE bYEE bYI bYO
     bYOO bYU bZA bZE bZEE bZHA bZHE bZHEE bZHI bZHO bZHOO bZHU bZI bZO bZOO bZU aSYMBOL_BANG
     bDANG bDO-O bDOONG bFAA bFEENG bJONG bKEENG bKUNG bNII bTAA bTING bTONG"),
    ("VARIATION", "aSELECTOR-1 aSELECTOR-10 aSELECTOR-100 aSELECTOR-101 aSELECTOR-102
     aSELECTOR-103 aSELECTOR-104 aSELECTOR-105 aSELECTOR-106 aSELECTOR-107 aSELECTOR-108
     aSELECTOR-109 aSELECTOR-11 aSELECTOR-110 aSELECTOR-111 aSELECTOR-112 aSELECTOR-113
     aSELECTOR-114 aSELECTOR-115 aSELECTOR-116 aSELECTOR-117 aSELECTOR-118 aSELECTOR-119
     aSELECTOR-12 aSELECTOR-120 aSELECTOR-121 aSELECTOR-122 aSELECTOR-123 aSELECTOR-124
     aSELECTOR-125 aSELECTOR-126 aSELECTOR-127 aSELECTOR-128 aSELECTOR-129 aSELECTOR-13
     aSELECTOR-130 aSELECTOR-131 aSELECTOR-132 aSELECTOR-133 aSELECTOR-134 aSELECTOR-135
     aSELECTOR-136 aSELECTOR-137 aSELECTOR-138 aSELECTOR-139 aSELECTOR-14 aSELECTOR-140
     aSELECTOR-141 aSELECTOR-142 aSELECTOR-143 aSELECTOR-144 aSELECTOR-145 aSELECTOR-146
     aSELECTOR-147 aSELECTOR-148 aSELECTOR-149 aSELECTOR-15 aSELECTOR-150 aSELECTOR-151
     aSELECTOR-152 aSELECTOR-153 aSELECTOR-154 aSELECTOR-155 aSELECTOR-156 aSELECTOR-157
     aSELECTOR-158 aSELECTOR-159 aSELECTOR-16 aSELECTOR-160 aSELECTOR-161 aSELECTOR-162
     aSELECTOR-163 aSELECTOR-164 aSELECTOR-165 aSELECTOR-166 aSELECTOR-167 aSELECTOR-168
     aSELECTOR-169 aSELECTOR-17 aSELECTOR-170 aSELECTOR-171 aSELECTOR-172 aSELECTOR-173
     aSELECTOR-174 aSELECTOR-175 aSELECTOR-176 aSELECTOR-177 aSELECTOR-178 aSELECTOR-179
     aSELECTOR-18 aSELECTOR-180 aSELECTOR-181 aSELECTOR-182 aSELECTOR-183 aSELECTOR-184
     aSELECTOR-185 aSELECTOR-186 aSELECTOR-187 aSELECTOR-188 aSELECTOR-189 aSELECTOR-19
     aSELECTOR-190 aSELECTOR-191 aSELECTOR-192 aSELECTOR-193 aSELECTOR-194 aSELECTOR-195
     aSELECTOR-196 aSELECTOR-197 aSELECTOR-198 aSELECTOR-199 aSELECTOR-2 aSELECTOR-20
     aSELECTOR-200 aSELECTOR-201 aSELECTOR-202 aSELECTOR-203 aSELECTOR-204 aSELECTOR-205
     aSELECTOR-206 aSELECTOR-207 aSELECTOR-208 aSELECTOR-209 aSELECTOR-21 aSELECTOR-210
     aSELECTOR-211 aSELECTOR-212 aSELECTOR-213 aSELECTOR-214 aSELECTOR-215 aSELECTOR-216
     aSELECTOR-217 aSELECTOR-218 aSELECTOR-219 aSELECTOR-22 aSELECTOR-220 aSELECTOR-221
     aSELECTOR-222 aSELECTOR-223 aSELECTOR-224 aSELECTOR-225 aSELECTOR-226 aSELECTOR-227
     aSELECTOR-228 aSELECTOR-229 aSELECTOR-23 aSELECTOR-230 aSELECTOR-231 aSELECTOR-232
     aSELECTOR-233 aSELECTOR-234 aSELECTOR-235 aSELECTOR-236 aSELECTOR-237 aSELECTOR-238
     aSELECTOR-239 aSELECTOR-24 aSELECTOR-240 aSELECTOR-241 aSELECTOR-242 aSELECTOR-243
     aSELECTOR-244 aSELECTOR-245 aSELECTOR-246 aSELECTOR-247 aSELECTOR-248 aSELECTOR-249
     aSELECTOR-25 aSELECTOR-250 aSELECTOR-251 aSELECTOR-252 aSELECTOR-253 aSELECTOR-254
     aSELECTOR-255 aSELECTOR-256 aSELECTOR-26 aSELECTOR-27 aSELECTOR-28 aSELECTOR-29 aSELECTOR-3
     aSELECTOR-30 aSELECTOR-31 aSELECTOR-32 aSELECTOR-33 aSELECTOR-34 aSELECTOR-35 aSELECTOR-36
     aSELECTOR-37 aSELECTOR-38 aSELECTOR-39 aSELECTOR-4 aSELECTOR-40 aSELECTOR-41 aSELECTOR-42
     aSELECTOR-43 aSELECTOR-44 aSELECTOR-45 aSELECTOR-46 aSELECTOR-47 aSELECTOR-48 aSELECTOR-49
     aSELECTOR-5 aSELECTOR-50 aSELECTOR-51 aSELECTOR-52 aSELECTOR-53 aSELECTOR-54 aSELECTOR-55
     aSELECTOR-56 aSELECTOR-57 aSELECTOR-58 aSELECTOR-59 aSELECTOR-6 aSELECTOR-60 aSELECTOR-61
     aSELECTOR-62 aSELECTOR-63 aSELECTOR-64 aSELECTOR-65 aSELECTOR-66 aSELECTOR-67 aSELECTOR-68
     aSELECTOR-69 aSELECTOR-7 aSELECTOR-70 aSELECTOR-71 aSELECTOR-72 aSELECTOR-73 aSELECTOR-74
     aSELECTOR-75 aSELECTOR-76 aSELECTOR-77 aSELECTOR-78 aSELECTOR-79 aSELECTOR-8 aSELECTOR-80
     aSELECTOR-81 aSELECTOR-82 aSELECTOR-83 aSELECTOR-84 aSELECTOR-85 aSELECTOR-86 aSELECTOR-87
     aSELECTOR-88 aSELECTOR-89 aSELECTOR-9 aSELECTOR-90 aSELECTOR-91 aSELECTOR-92 aSELECTOR-93
     aSELECTOR-94 aSELECTOR-95 aSELECTOR-96 aSELECTOR-97 aSELECTOR-98 aSELECTOR-99"),
    ("VECTOR", "aOR_CROSS_PRODUCT"),
    ("VEDIC", "aSIGN_ANUSVARA_ANTARGOMUKHA cBAHIRGOMUKHA cUBHAYATO_MUKHA cVAMAGOMUKHA dWITH_TAIL
     bARDHAVISARGA bATIKRAMA bDOUBLE_ANUSVARA_ANTARGOMUKHA bHEXIFORM_LONG_ANUSVARA bJIHVAMULIYA
     bLONG_ANUSVARA bNIHSHVASA bREVERSED_VISARGA_ANUDATTA dUDATTA bROTATED_ARDHAVISARGA
     bRTHANG_LONG_ANUSVARA bTIRYAK bUPADHMANIYA bVISARGA_ANUDATTA dWITH_TAIL cSVARITA cUDATTA
     dWITH_TAIL bYAJURVEDIC_MIDLINE_SVARITA aTONE_ATHARVAVEDIC_INDEPENDENT_SVARITA bCANDRA_ABOVE
     cBELOW bDOT_BELOW bDOUBLE_RING_ABOVE cSVARITA bKARSHANA bKATHAKA_ANUDATTA bPRENKHA
     bRIGVEDIC_KASHMIRI_INDEPENDENT_SVARITA bRING_ABOVE bSHARA bTHREE_DOTS_BELOW bTRIPLE_SVARITA
     bTWO_DOTS_BELOW bYAJURVEDIC_AGGRAVATED_INDEPENDENT_SVARITA cINDEPENDENT_SVARITA
     cKATHAKA_INDEPENDENT_SVARITA fSCHROEDER"),
    ("VERTICAL", "aBAR_BESIDE_RIGHT_TRIANGLE bDOUBLE_LEFT_TURNSTILE bTRIPLE_RIGHT_TURNSTILE
     bWITH_HORIZONTAL_STROKE aELLIPSIS aFOUR_DOTS aIDEOGRAPHIC_ITERATION_MARK aKANA_REPEAT_MARK
     dLOWER_HALF dUPPER_HALF cWITH_VOICED_SOUND_MARK gUPPER_HALF aLINE bEXTENSION
     bWITH_CIRCLE_ABOVE dBELOW cMIDDLE_DOT aMALE_WITH_STROKE_SIGN aONE_EIGHTH_BLOCK-2 cBLOCK-3
     cBLOCK-4 cBLOCK-5 cBLOCK-6 cBLOCK-7 aSIX_DOTS aTAB_KEY aTABULATION bSET aTILDE
     aTRAFFIC_LIGHT aZIGZAG_LINE"),
    ("VERY", "aBOLD_GREEK_CROSS aHEAVY_EIGHT_POINTED_BLACK_STAR cSPOKED_ASTERISK
     bFIVE_SPOKED_ASTERISK bGREEK_CROSS bREVERSE_SOLIDUS bSALTIRE bSIX_SPOKED_ASTERISK bSOLIDUS
     bWHITE_CIRCLE cSQUARE aMUCH_GREATER-THAN bLESS-THAN"),
    ("VIBRATION", "aMODE"),
    ("VICTORY", "aHAND"),
    ("VIDEO", "aCAMERA aGAME"),
    ("VIETNAMESE", "aALTERNATE_READING_MARK_CA dNHAY"),
    ("VIEWDATA", "aSQUARE"),
    ("VITHKUQI", "aCAPITAL_LETTER_A cBBE cBE cCE cCHE cDE cDHE cE cEI cFE cGA cHA cHHA cI cIJE
     cJE cKA cLA cLLA cME cNE cNJE cO cPE cQA cRE cSE cSHE cTE cTHE cU cVE cXE cY cZE
     aSMALL_LETTER_A cBBE cBE cCE cCHE cDE cDHE cE cEI cFE cGA cHA cHHA cI cIJE cJE cKA cLA cLLA
     cME cNE cNJE cO cPE cQA cRE cSE cSHE cTE cTHE cU cVE cXE cY cZE"),
    ("VOIDED", "aGREEK_CROSS"),
    ("VOLUME", "aINTEGRAL"),
    ("VULGAR", "aFRACTION_FIVE_EIGHTHS cSIXTHS bFOUR_FIFTHS bONE_EIGHTH cFIFTH cHALF cNINTH
     cQUARTER cSEVENTH cSIXTH cTENTH cTHIRD bSEVEN_EIGHTHS bTHREE_EIGHTHS cFIFTHS cQUARTERS
     bTWO_FIFTHS cTHIRDS bZERO_THIRDS"),
    ("WANCHO", "aDIGIT_EIGHT bFIVE bFOUR bNINE bONE bSEVEN bSIX bTHREE bTWO bZERO aLETTER_A bAA
     bAAN bAANG bANG bAU bBA bCA bDA bE bEN bFA bGA bHA bI bING bJA bKA bKHA bLA bLLHA bMA bNA
     bNGA bNYA bO bON bONG bPA bPHA bRA bSA bSHA bTA bTHA bTRA bTSA bU bUEN bVA bWA bYA bYIH bZA
     aNGUN_SIGN aTONE_KOI bKOINI bTUP bTUPNI"),
    ("WANING", "aCRESCENT_MOON_SYMBOL aGIBBOUS_MOON_SYMBOL"),
    ("WARANG", "aCITI_CAPITAL_LETTER_A dAM dANG dAT dBU dDA dE dENN dENY dGA dHAR dHIYO dHOLO
     dHORR dII dKO dNGAA dNUNG dO dODD dPU dSII dSSUU dTTE dUC dUU dVIYO dWI dYA dYO dYU dYUJ
     bDIGIT_EIGHT cFIVE cFOUR cNINE cONE cSEVEN cSIX cTHREE cTWO cZERO bNUMBER_EIGHTY cFIFTY
     cFORTY cNINETY cSEVENTY cSIXTY cTEN cTHIRTY cTWENTY bOM bSMALL_LETTER_A dAM dANG dAT dBU dDA
     dE dENN dENY dGA dHAR dHIYO dHOLO dHORR dII dKO dNGAA dNUNG dO dODD dPU dSII dSSUU dTTE dUC
     dUU dVIYO dWI dYA dYO dYU dYUJ"),
    ("WARNING", "aSIGN"),
    ("WATER", "aBUFFALO aCLOSET aPOLO aWAVE"),
    ("WAVE", "aARROW_POINTING_DIRECTLY_LEFT dRIGHT aDASH"),
    ("WAVING", "aBLACK_FLAG aHAND_SIGN aWHITE_FLAG"),
    ("WAVY", "aDASH aLINE aLOW_LINE aOVERLINE"),
    ("WAXING", "aCRESCENT_MOON_SYMBOL aGIBBOUS_MOON_SYMBOL"),
    ("WEARY", "aCAT_FACE aFACE"),
    ("WEDGE-TAILED", "aRIGHTWARDS_ARROW"),
    ("WEIERSTRASS", "aELLIPTIC_FUNCTION"),
    ("WEIGHT", "aLIFTER"),
    ("WEST", "aSYRIAC_CROSS"),
    ("WHEEL", "a aOF_DHARMA"),
    ("WHEELCHAIR", "aSYMBOL"),
    ("WHITE", "aARROW_SHAFT_WIDTH_ONE dTWO_THIRDS aBULLET aCHESS_BISHOP cROTATED_NINETY_DEGREES
     dTWO_HUNDRED_SEVENTY_DEGREES bEQUIHOPPER cROTATED_NINETY_DEGREES bKING
     cROTATED_NINETY_DEGREES dTWO_HUNDRED_SEVENTY_DEGREES bKNIGHT cROTATED_FORTY-FIVE_DEGREES
     dNINETY_DEGREES dONE_HUNDRED_THIRTY-FIVE_DEGREES dTHREE_HUNDRED_FIFTEEN_DEGREES
     dTWO_HUNDRED_SEVENTY_DEGREES fTWENTY-FIVE_DEGREES bKNIGHT-BISHOP bKNIGHT-QUEEN bKNIGHT-ROOK
     bPAWN cROTATED_NINETY_DEGREES dTWO_HUNDRED_SEVENTY_DEGREES bQUEEN cROTATED_NINETY_DEGREES
     dTWO_HUNDRED_SEVENTY_DEGREES bROOK cROTATED_NINETY_DEGREES dTWO_HUNDRED_SEVENTY_DEGREES
     bTURNED_BISHOP cKING cKNIGHT cPAWN cQUEEN cROOK aCIRCLE bCONTAINING_BLACK_SMALL_CIRCLE
     bWITH_DOT_RIGHT cDOWN_ARROW cLOWER_LEFT_QUADRANT dRIGHT_QUADRANT cTWO_DOTS
     cUPPER_LEFT_QUADRANT dRIGHT_QUADRANT aCLUB_SUIT aCONCAVE-SIDED_DIAMOND cWITH_LEFTWARDS_TICK
     dRIGHTWARDS_TICK aDIAMOND bCONTAINING_BLACK_MEDIUM_DIAMOND dSMALL_DIAMOND
     dVERY_SMALL_DIAMOND bIN_SQUARE bSUIT bWITH_CENTRED_DOT aDOWN_POINTING_BACKHAND_INDEX cINDEX
     cLEFT_HAND_INDEX aDOWN-POINTING_SMALL_TRIANGLE bTRIANGLE aDRAUGHTS_KING bMAN
     aEXCLAMATION_MARK_ORNAMENT aFLAG bWITH_HORIZONTAL_MIDDLE_BLACK_STRIPE aFLORETTE aFLOWER
     aFOUR_POINTED_CUSP cSTAR aFROWNING_FACE aHARD_SHELL_FLOPPY_DISK aHEART bSUIT
     aHEAVY_CHECK_MARK bSALTIRE_WITH_ROUNDED_CORNERS aHEXAGON aHORIZONTAL_ELLIPSE aHOURGLASS
     aLARGE_SQUARE aLATIN_CROSS aLEFT_LANE_MERGE bPOINTING_BACKHAND_INDEX cINDEX
     aLEFT-POINTING_POINTER bSMALL_TRIANGLE bTRIANGLE aLOZENGE_CONTAINING_BLACK_SMALL_LOZENGE
     aMEDIUM_DIAMOND bLOZENGE bSMALL_SQUARE bSQUARE bSTAR aMOON_SELENA aNIB aPARALLELOGRAM
     aPENNANT aPENTAGON aQUESTION_MARK_ORNAMENT aRECTANGLE aRIGHT_POINTING_BACKHAND_INDEX cINDEX
     aRIGHT-POINTING_PENTAGON bPOINTER bSMALL_TRIANGLE bTRIANGLE aSCISSORS aSESAME_DOT
     aSHOGI_PIECE aSMALL_LOZENGE bSQUARE bSTAR aSMILING_FACE aSPADE_SUIT aSQUARE bBUTTON
     bCONTAINING_BLACK_MEDIUM_SQUARE dSMALL_SQUARE dVERY_SMALL_SQUARE bWITH_CENTRE_VERTICAL_LINE
     cLEFTWARDS_TICK cLOWER_LEFT_QUADRANT dRIGHT_QUADRANT cRIGHTWARDS_TICK cROUNDED_CORNERS
     cUPPER_LEFT_QUADRANT dRIGHT_QUADRANT cVERTICAL_BISECTING_LINE aSTAR aSUN bBEHIND_CLOUD
     dWITH_RAIN bWITH_RAYS cSMALL_CLOUD aTELEPHONE aTOUCHTONE_TELEPHONE aTRAPEZIUM
     aTRIANGLE_CONTAINING_SMALL_WHITE_TRIANGLE aTWO-WAY_LEFT_WAY_TRAFFIC
     aUP_POINTING_BACKHAND_INDEX cINDEX aUP-POINTING_CHEVRON bSMALL_TRIANGLE bTRIANGLE cWITH_DOT
     aVERTICAL_BAR bELLIPSE bRECTANGLE aVERY_SMALL_SQUARE"),
    ("WHITE-FEATHERED", "aRIGHTWARDS_ARROW"),
    ("WIDE-HEADED", "aDOWNWARDS_BARB_ARROW bHEAVY_BARB_ARROW bLIGHT_BARB_ARROW bMEDIUM_BARB_ARROW
     bVERY_HEAVY_BARB_ARROW aLEFTWARDS_BARB_ARROW bHEAVY_BARB_ARROW bLIGHT_BARB_ARROW
     bMEDIUM_BARB_ARROW bVERY_HEAVY_BARB_ARROW aNORTH_EAST_BARB_ARROW cHEAVY_BARB_ARROW
     cLIGHT_BARB_ARROW cMEDIUM_BARB_ARROW cVERY_HEAVY_BARB_ARROW bWEST_BARB_ARROW
     cHEAVY_BARB_ARROW cLIGHT_BARB_ARROW cMEDIUM_BARB_ARROW cVERY_HEAVY_BARB_ARROW
     aRIGHTWARDS_BARB_ARROW bHEAVY_BARB_ARROW bLIGHT_BARB_ARROW bMEDIUM_BARB_ARROW
     bVERY_HEAVY_BARB_ARROW aSOUTH_EAST_BARB_ARROW cHEAVY_BARB_ARROW cLIGHT_BARB_ARROW
     cMEDIUM_BARB_ARROW cVERY_HEAVY_BARB_ARROW bWEST_BARB_ARROW cHEAVY_BARB_ARROW
     cLIGHT_BARB_ARROW cMEDIUM_BARB_ARROW cVERY_HEAVY_BARB_ARROW aUPWARDS_BARB_ARROW
     bHEAVY_BARB_ARROW bLIGHT_BARB_ARROW bMEDIUM_BARB_ARROW bVERY_HEAVY_BARB_ARROW"),
    ("WIGGLY", "aVERTICAL_LINE"),
    ("WILTED", "aFLOWER"),
    ("WIND", "aBLOWING_FACE aCHIME"),
    ("WINE", "aGLASS"),
    ("WINKING", "aFACE"),
    ("WIRED", "aKEYBOARD"),
    ("WOLF", "aFACE"),
    ("WOMAN", "a aWITH_BUNNY_EARS"),
    ("WOMANS", "aBOOTS aCLOTHES aHAT aSANDAL"),
    ("WOMENS", "aSYMBOL"),
    ("WON", "aSIGN"),
    ("WORD", "aJOINER aSEPARATOR_MIDDLE_DOT"),
    ("WORLD", "aMAP"),
    ("WORRIED", "aFACE"),
    ("WRAPPED", "aPRESENT"),
    ("WREATH", "aPRODUCT"),
    ("WRITING", "aHAND"),
    ("X", "aIN_A_RECTANGLE_BOX"),
    ("XIANGQI", "aBLACK_CANNON bCHARIOT bELEPHANT bGENERAL bHORSE bMANDARIN bSOLDIER aRED_CANNON
     bCHARIOT bELEPHANT bGENERAL bHORSE bMANDARIN bSOLDIER"),
    ("YAWNING", "aFACE"),
    ("YELLOW", "aHEART"),
    ("YEN", "aSIGN"),
    ("YEZIDI", "aCOMBINING_HAMZA_MARK bMADDA_MARK aHYPHENATION_MARK aLETTER_BE bCHHIM bCHIM bCIM
     bDAD bDAL bELIF bET bEW bEYN bFA bGAF bHAY bHHA bJA bKAF bKHAF bLAM cWITH_DOT_ABOVE bMIM
     bNUN bOW bPE bPHE bQAF bRA bRHA bSAD bSE bSHIN bSIN bTA bTHE bUM bVA cALTERNATE_FORM bWAW
     bXA bXHEYN bYOT cWITH_CIRCUMFLEX_ABOVE bZA bZAL bZE"),
    ("YI", "aRADICAL_BBUT bBUR bCHE bCIP bCUOP bCY bCYP bCYT bDDUR bDU bGA bGEP bGGOP bGGUO bGOT
     bHMO bHXIT bHXOP bHXUO bJJIE bJJUT bJJY bJO bKE bKIT bLI bLIE bLYR bMI bMOP bNBIE bNYIP
     bNYOP bNZUP bOP bPUT bPYT bQOT bSHAT bSHOP bSHUR bSHY bSSI bTAT bTU bVEP bVUR bWO bYIT bYO
     bZA bZOT bZUP bZUR bZZIET aSYLLABLE_A bAP bAT bAX bBA bBAP bBAT bBAX bBBA bBBAP bBBAT bBBAX
     bBBE bBBEP bBBEX bBBI bBBIE bBBIEP bBBIET bBBIEX bBBIP bBBIT bBBIX bBBO bBBOP bBBOT bBBOX
     bBBU bBBUO bBBUOP bBBUOX bBBUP bBBUR bBBURX bBBUT bBBUX bBBY bBBYP bBBYT bBBYX bBE bBEP bBEX
     bBI bBIE bBIEP bBIET bBIEX bBIP bBIT bBIX bBO bBOP bBOT bBOX bBU bBUO bBUOP bBUOX bBUP bBUR
     bBURX bBUT bBUX bBY bBYP bBYR bBYRX bBYT bBYX bCA bCAP bCAT bCAX bCE bCEP bCEX bCHA bCHAP
     bCHAT bCHAX bCHE bCHEP bCHET bCHEX bCHO bCHOP bCHOT bCHOX bCHU bCHUO bCHUOP bCHUOT bCHUOX
     bCHUP bCHUR bCHURX bCHUX bCHY bCHYP bCHYR bCHYRX bCHYT bCHYX bCI bCIE bCIEP bCIET bCIEX bCIP
     bCIT bCIX bCO bCOP bCOT bCOX bCU bCUO bCUOP bCUOX bCUP bCUR bCURX bCUT bCUX bCY bCYP bCYR
     bCYRX bCYT bCYX bDA bDAP bDAT bDAX bDDA bDDAP bDDAT bDDAX bDDE bDDEP bDDEX bDDI bDDIE bDDIEP
     bDDIEX bDDIP bDDIT bDDIX bDDO bDDOP bDDOT bDDOX bDDU bDDUO bDDUOP bDDUOX bDDUP bDDUR bDDURX
     bDDUT bDDUX bDE bDEP bDEX bDI bDIE bDIEP bDIEX bDIP bDIT bDIX bDO bDOP bDOT bDOX bDU bDUO
     bDUOX bDUP bDUR bDURX bDUT bDUX bE bEX bFA bFAP bFAT bFAX bFI bFIP bFIT bFIX bFO bFOP bFOX
     bFU bFUP bFUR bFURX bFUT bFUX bFY bFYP bFYT bFYX bGA bGAP bGAT bGAX bGE bGEP bGET bGEX bGGA
     bGGAP bGGAT bGGAX bGGE bGGEP bGGET bGGEX bGGI bGGIE bGGIEP bGGIEX bGGIT bGGIX bGGO bGGOP
     bGGOT bGGOX bGGU bGGUO bGGUOP bGGUOT bGGUOX bGGUP bGGUR bGGURX bGGUT bGGUX bGI bGIE bGIEP
     bGIET bGIEX bGIP bGIT bGIX bGO bGOP bGOT bGOX bGU bGUO bGUOP bGUOT bGUOX bGUP bGUR bGURX
     bGUT bGUX bHA bHAP bHAT bHAX bHE bHEP bHEX bHIE bHIEX bHIT bHLA bHLAP bHLAT bHLAX bHLE bHLEP
     bHLEX bHLI bHLIE bHLIEP bHLIEX bHLIP bHLIT bHLIX bHLO bHLOP bHLOX bHLU bHLUO bHLUOP bHLUOX
     bHLUP bHLUR bHLURX bHLUT bHLUX bHLY bHLYP bHLYR bHLYRX bHLYT bHLYX bHMA bHMAP bHMAT bHMAX
     bHMI bHMIE bHMIEP bHMIEX bHMIP bHMIT bHMIX bHMO bHMOP bHMOT bHMOX bHMU bHMUO bHMUOP bHMUOX
     bHMUP bHMUR bHMURX bHMUT bHMUX bHMY bHMYP bHMYR bHMYRX bHMYX bHNA bHNAP bHNAT bHNAX bHNE
     bHNEP bHNEX bHNI bHNIE bHNIEP bHNIET bHNIEX bHNIP bHNIT bHNIX bHNOP bHNOT bHNOX bHNUO bHNUOX
     bHNUT bHO bHOP bHOT bHOX bHUO bHUOP bHUOT bHUOX bHXA bHXAP bHXAT bHXAX bHXE bHXEP bHXEX bHXI
     bHXIE bHXIEP bHXIET bHXIEX bHXIP bHXIT bHXIX bHXO bHXOP bHXOT bHXOX bHXUO bHXUOP bHXUOT
     bHXUOX bI bIE bIEP bIET bIEX bIP bIT bITERATION_MARK bIX bJI bJIE bJIEP bJIET bJIEX bJIP
     bJIT bJIX bJJI bJJIE bJJIEP bJJIET bJJIEX bJJIP bJJIT bJJIX bJJO bJJOP bJJOT bJJOX bJJU
     bJJUO bJJUOP bJJUOX bJJUP bJJUR bJJURX bJJUT bJJUX bJJY bJJYP bJJYT bJJYX bJO bJOP bJOT bJOX
     bJU bJUO bJUOP bJUOT bJUOX bJUP bJUR bJURX bJUT bJUX bJY bJYP bJYR bJYRX bJYT bJYX bKA bKAP
     bKAT bKAX bKE bKEP bKET bKEX bKI bKIE bKIEP bKIEX bKIP bKIT bKIX bKO bKOP bKOT bKOX bKU bKUO
     bKUOP bKUOX bKUP bKUR bKURX bKUT bKUX bLA bLAP bLAT bLAX bLE bLEP bLEX bLI bLIE bLIEP bLIET
     bLIEX bLIP bLIT bLIX bLO bLOP bLOT bLOX bLU bLUO bLUOP bLUOT bLUOX bLUP bLUR bLURX bLUT bLUX
     bLY bLYP bLYR bLYRX bLYT bLYX bMA bMAP bMAT bMAX bME bMEX bMGA bMGAP bMGAT bMGAX bMGE bMGEP
     bMGEX bMGIE bMGIEX bMGO bMGOP bMGOT bMGOX bMGU bMGUO bMGUOP bMGUOX bMGUP bMGUR bMGURX bMGUT
     bMGUX bMI bMIE bMIEP bMIEX bMIP bMIT bMIX bMO bMOP bMOT bMOX bMU bMUO bMUOP bMUOT bMUOX bMUP
     bMUR bMURX bMUT bMUX bMY bMYP bMYT bMYX bNA bNAP bNAX bNBA bNBAP bNBAT bNBAX bNBI bNBIE
     bNBIEP bNBIEX bNBIP bNBIT bNBIX bNBO bNBOP bNBOT bNBOX bNBU bNBUP bNBUR bNBURX bNBUT bNBUX
     bNBY bNBYP bNBYR bNBYRX bNBYT bNBYX bNDA bNDAP bNDAT bNDAX bNDE bNDEP bNDEX bNDI bNDIE
     bNDIEX bNDIP bNDIT bNDIX bNDO bNDOP bNDOT bNDOX bNDU bNDUP bNDUR bNDURX bNDUT bNDUX bNE bNEP
     bNEX bNGA bNGAP bNGAT bNGAX bNGE bNGEP bNGEX bNGIE bNGIEP bNGIEX bNGO bNGOP bNGOT bNGOX
     bNGUO bNGUOT bNGUOX bNI bNIE bNIEP bNIEX bNIP bNIT bNIX bNJI bNJIE bNJIEP bNJIET bNJIEX
     bNJIP bNJIT bNJIX bNJO bNJOP bNJOT bNJOX bNJU bNJUO bNJUOX bNJUP bNJUR bNJURX bNJUX bNJY
     bNJYP bNJYR bNJYRX bNJYT bNJYX bNO bNOP bNOT bNOX bNRA bNRAP bNRAT bNRAX bNRE bNREP bNRET
     bNREX bNRO bNROP bNROX bNRU bNRUP bNRUR bNRURX bNRUT bNRUX bNRY bNRYP bNRYR bNRYRX bNRYT
     bNRYX bNU bNUO bNUOP bNUOX bNUP bNUR bNURX bNUT bNUX bNYI bNYIE bNYIEP bNYIET bNYIEX bNYIP
     bNYIT bNYIX bNYO bNYOP bNYOT bNYOX bNYU bNYUO bNYUOP bNYUOX bNYUP bNYUT bNYUX bNZA bNZAP
     bNZAT bNZAX bNZE bNZEX bNZI bNZIE bNZIEP bNZIEX bNZIP bNZIT bNZIX bNZOP bNZOX bNZU bNZUO
     bNZUOX bNZUP bNZUR bNZURX bNZUX bNZY bNZYP bNZYR bNZYRX bNZYT bNZYX bO bOP bOT bOX bPA bPAP
     bPAT bPAX bPI bPIE bPIEP bPIEX bPIP bPIT bPIX bPO bPOP bPOT bPOX bPU bPUO bPUOP bPUOX bPUP
     bPUR bPURX bPUT bPUX bPY bPYP bPYR bPYRX bPYT bPYX bQI bQIE bQIEP bQIET bQIEX bQIP bQIT bQIX
     bQO bQOP bQOT bQOX bQU bQUO bQUOP bQUOT bQUOX bQUP bQUR bQURX bQUT bQUX bQY bQYP bQYR bQYRX
     bQYT bQYX bRA bRAP bRAT bRAX bRE bREP bREX bRO bROP bROT bROX bRRA bRRAX bRRE bRREP bRRET
     bRREX bRRO bRROP bRROT bRROX bRRU bRRUO bRRUOX bRRUP bRRUR bRRURX bRRUT bRRUX bRRY bRRYP
     bRRYR bRRYRX bRRYT bRRYX bRU bRUO bRUOP bRUOX bRUP bRUR bRURX bRUT bRUX bRY bRYP bRYR bRYRX
     bRYT bRYX bSA bSAP bSAT bSAX bSE bSEP bSEX bSHA bSHAP bSHAT bSHAX bSHE bSHEP bSHET bSHEX
     bSHO bSHOP bSHOT bSHOX bSHU bSHUO bSHUOP bSHUOX bSHUP bSHUR bSHURX bSHUT bSHUX bSHY bSHYP
     bSHYR bSHYRX bSHYT bSHYX bSI bSIE bSIEP bSIEX bSIP bSIT bSIX bSO bSOP bSOT bSOX bSSA bSSAP
     bSSAT bSSAX bSSE bSSEP bSSEX bSSI bSSIE bSSIEP bSSIEX bSSIP bSSIT bSSIX bSSO bSSOP bSSOT
     bSSOX bSSU bSSUP bSSUT bSSUX bSSY bSSYP bSSYR bSSYRX bSSYT bSSYX bSU bSUO bSUOP bSUOX bSUP
     bSUR bSURX bSUT bSUX bSY bSYP bSYR bSYRX bSYT bSYX bTA bTAP bTAT bTAX bTE bTEP bTEX bTI bTIE
     bTIEP bTIEX bTIP bTIT bTIX bTO bTOP bTOT bTOX bTU bTUO bTUOP bTUOT bTUOX bTUP bTUR bTURX
     bTUT bTUX bUO bUOP bUOX bVA bVAP bVAT bVAX bVEP bVEX bVI bVIE bVIEP bVIET bVIEX bVIP bVIT
     bVIX bVO bVOP bVOT bVOX bVU bVUP bVUR bVURX bVUT bVUX bVY bVYP bVYR bVYRX bVYT bVYX bWA bWAP
     bWAT bWAX bWE bWEP bWEX bWO bWOP bWOX bWU bWUO bWUOP bWUOX bXI bXIE bXIEP bXIET bXIEX bXIP
     bXIT bXIX bXO bXOP bXOT bXOX bXUO bXUOX bXY bXYP bXYR bXYRX bXYT bXYX bYI bYIE bYIEP bYIET
     bYIEX bYIP bYIT bYIX bYO bYOP bYOT bYOX bYU bYUO bYUOP bYUOT bYUOX bYUP bYUR bYURX bYUT bYUX
     bYY bYYP bYYR bYYRX bYYT bYYX bZA bZAP bZAT bZAX bZE bZEP bZEX bZHA bZHAP bZHAT bZHAX bZHE
     bZHEP bZHET bZHEX bZHO bZHOP bZHOT bZHOX bZHU bZHUO bZHUOP bZHUOX bZHUP bZHUR bZHURX bZHUT
     bZHUX bZHY bZHYP bZHYR bZHYRX bZHYT bZHYX bZI bZIE bZIEP bZIEX bZIP bZIT bZIX bZO bZOP bZOT
     bZOX bZU bZUO bZUOP bZUOX bZUP bZUR bZURX bZUT bZUX bZY bZYP bZYR bZYRX bZYT bZYX bZZA bZZAP
     bZZAT bZZAX bZZE bZZEP bZZEX bZZI bZZIE bZZIEP bZZIET bZZIEX bZZIP bZZIT bZZIX bZZO bZZOP
     bZZOX bZZU bZZUP bZZUR bZZURX bZZUX bZZY bZZYP bZZYR bZZYRX bZZYT bZZYX"),
    ("YIN", "aYANG"),
    ("Z", "aNOTATION_BAG_MEMBERSHIP bDOMAIN_ANTIRESTRICTION bLEFT_BINDING_BRACKET cIMAGE_BRACKET
     bRANGE_ANTIRESTRICTION bRELATIONAL_COMPOSITION bRIGHT_BINDING_BRACKET cIMAGE_BRACKET
     bSCHEMA_COMPOSITION cPIPING cPROJECTION bSPOT bTYPE_COLON"),
    ("ZANABAZAR", "aSQUARE_CLOSING_DOUBLE-LINED_HEAD_MARK cHEAD_MARK bCLUSTER-FINAL_LETTER_LA dRA
     dVA dYA bCLUSTER-INITIAL_LETTER_RA bFINAL_CONSONANT_MARK bINITIAL_DOUBLE-LINED_HEAD_MARK
     cHEAD_MARK bLETTER_-A cA cBA cBHA cCA cCHA cDA cDDA cDDHA cDHA cDZA cDZHA cGA cGHA cHA cJA
     cKA cKHA cKSSA cLA cMA cNA cNGA cNNA cNYA cPA cPHA cRA cSA cSHA cSSA cTA cTHA cTSA cTSHA
     cTTA cTTHA cVA cYA cZA cZHA bMARK_DOUBLE_SHAD cLONG_TSHEG cSHAD cTSHEG bSIGN_ANUSVARA
     cCANDRA_WITH_ORNAMENT cCANDRABINDU dWITH_ORNAMENT cVIRAMA cVISARGA bSUBJOINER
     bVOWEL_LENGTH_MARK cSIGN_AI dAU dE dI dO dOE dREVERSED_I dU dUE"),
    ("ZEBRA", "aFACE"),
    ("ZERO", "aWIDTH_JOINER bNO-BREAK_SPACE bNON-JOINER bSPACE"),
    ("ZIPPER-MOUTH", "aFACE"),
    ("ZNAMENNY", "aCOMBINING_ATTACHING_VERTICAL_OMET bLOWER_TONAL_RANGE_INDICATOR bMARK_BORZAYA
     cCHASHKA dPOLNAYA cCURVED_OMET cDEMESTVENNY_ZADERZHKA cDVOETOCHIE cGORAZDO_NIZKO_ON_LEFT
     fRIGHT eS_KRYZHEM_ON_LEFT hRIGHT dVYSOKO cKACHKA cKRYZH dON_LEFT cKUPNAYA cLOMKA
     cMALO_POVYSHE_ON_LEFT fRIGHT eS_KHOKHLOM_ON_LEFT hRIGHT fKRYZHEM eSTRANNO cNIZKO_ON_LEFT
     eRIGHT dS_KRYZHEM_ON_LEFT gRIGHT cOBLACHKO cON cOTSECHKA cPODCHASHIE dWITH_VERTICAL_STROKE
     cPODVERTKA cPOVYSHE_ON_LEFT eRIGHT dS_KHOKHLOM_ON_LEFT gRIGHT eKRYZHEM dSTRANNO cRAVNO
     cRAZSEKA cSKOBA cSOROCHYA_NOZHKA cSREDNE_ON_LEFT eRIGHT cSTRANNO_MALO_POVYSHE cTIKHAYA
     cTOCHKA cTSATA_ON_LEFT eRIGHT dS_KRYZHEM cUDARKA cVYSOKO_ON_LEFT eRIGHT dS_KHOKHLOM_ON_LEFT
     gRIGHT eKRYZHEM cZADERZHKA cZELO cZEVOK bTONAL_RANGE_MARK_MRACHNO eSVETLO eTRESVETLO
     aNEUME_CHASHKA bCHELYUSTKA bDEMESTVENNY_KLYUCH bDERBITSA bDOUBLE_ZAPYATAYA bDUDA
     bDVA_V_CHELNU bFITA bGOLUBCHIK_BORZY cMRACHNY cSVETLY cTIKHY cTRESVETLY bKHAMILO bKLYUCH
     bKOBYLA bKRYUK cTIKHY bKRYZH bKUFISMA bMECHIK cKLYUCHENEPOSTOYANNY cKLYUCHEPOVODNY
     cKLYUCHEVOY cPOVODNY bNEMKA bOBLAKO bOSOKA cKLYUCHEVAYA_NEPOSTOYANNAYA dSVETLAYA
     cKRYUKOVAYA_SVETLAYA cSVETLAYA cTRESVETLAYA bPALKA bPARAKLIT bPAUK bPEREVODKA
     cNEPOSTOYANNAYA bPODCHASHIE bPOLKULIZMY bREVERSED_CHELYUSTKA bROG
     bSKAMEYTSA_DVOECHELNAYA_KLYUCHEVAYA dNEPOSTOYANNAYA dPROSTAYA dSVETLAYA
     cKLYUCHENEPOSTOYANNAYA cKLYUCHEVAYA_SVETLAYA dTIKHAYA cMRACHNAYA cSVETLAYA cTIKHAYA
     cTRESVETLAYA bSLOZHITIE cS_KRYZHEM dZAPYATOY cZAKRYTOE bSTATYA cNEPOSTOYANNAYA
     cS_DVUMYA_ZAPYATYMI dKRYZHEM eI_ZAPYATOY dROGOM dZAPYATOY eI_KRYZHEM fPODCHASHIEM cZAKRYTAYA
     dS_ZAPYATOY bSTOPITSA cS_OCHKOM cWITH_SOROCHYA_NOZHKA bSTRELA_DVOECHELNAYA dKLYUCHEVAYA
     cDVOECHELNOKRYZHEVAYA cDVOECHELNOPOVODNAYA dKLYUCHEVAYA cGROMNAYA dWITH_SINGLE_ZAPYATAYA
     cGROMOKRYZHEVAYA dPOVODNAYA cGROMOPOVODNAYA dWITH_DOUBLE_ZAPYATAYA eSINGLE_ZAPYATAYA
     cKLYUCHENEPOSTOYANNAYA cKLYUCHEPOVODNAYA cKRYUKOVAYA dGROMNAYA eWITH_SINGLE_ZAPYATAYA
     dGROMOKRYZHEVAYA ePOVODNAYA dGROMOPOVODNAYA eWITH_DOUBLE_ZAPYATAYA fSINGLE_ZAPYATAYA
     dPOVODNAYA dTRYASKA cKRYZHEVAYA cMRACHNOTIKHAYA cNEPOSTOYANNAYA cPOLUPOVODNAYA cPOVODNAYA
     cPROSTAYA cTIKHAYA_PUTNAYA cTRYASOGLASNAYA cTRYASOPOVODNAYA cTRYASOSTRELNAYA
     bVRAKHIYA_KLYUCHEVAYA_MRACHNAYA dPROSTAYA dSVETLAYA dTRESVETLAYA cMRACHNAYA cPROSTAYA
     cSVETLAYA cTRESVETLAYA bZANOZHEK bZAPYATAYA bZMEYTSA aPRIZNAK_MODIFIER_DIRECTION_FLIP cKRYZH
     cLEVEL-2 cLEVEL-3 cROG")]

end Polyglot.CharacterName
