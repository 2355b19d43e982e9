/-!
# Names of symbols

The names of the characters from U+2000 to U+2FFF: punctuation, signs, arrows, shapes and
some further alphabets.
-/

namespace DocAudit.Text.Names

/-- The names from U+2000 on, in the shortened form that `Names.find` reads. -/
def symbols : String := "
aEN QUADaEM QUADaEN SPACEaEM SPACEaTHREE-PER-EM SPACEaFOUR-PER-EM SPACEaSIX-PER-EM SPACE
aFIGURE SPACEaPUNCTUATION SPACEaTHIN SPACEaHAIR SPACEaZERO WIDTH SPACEcNON-JOINERcJOINER
aLEFT-TO-RIGHT MARKaRIGHT-TO-LEFT MARKaHYPHENaNON-BREAKING HYPHENaFIGURE DASHaEN DASHaEM DASH
aHORIZONTAL BARaDOUBLE VERTICAL LINEbLOW LINEaLEFT SINGLE QUOTATION MARK
aRIGHT SINGLE QUOTATION MARKaSINGLE LOW-9 QUOTATION MARKbHIGH-REVERSED-9 QUOTATION MARK
aLEFT DOUBLE QUOTATION MARKaRIGHT DOUBLE QUOTATION MARKaDOUBLE LOW-9 QUOTATION MARK
bHIGH-REVERSED-9 QUOTATION MARKaDAGGERaDOUBLE DAGGERaBULLETaTRIANGULAR BULLETaONE DOT LEADER
aTWO DOT LEADERaHORIZONTAL ELLIPSISaHYPHENATION POINTaLINE SEPARATORaPARAGRAPH SEPARATOR
aLEFT-TO-RIGHT EMBEDDINGaRIGHT-TO-LEFT EMBEDDINGaPOP DIRECTIONAL FORMATTINGaLEFT-TO-RIGHT OVERRIDE
aRIGHT-TO-LEFT OVERRIDEaNARROW NO-BREAK SPACEaPER MILLE SIGNbTEN THOUSAND SIGNaPRIMEaDOUBLE PRIME
aTRIPLE PRIMEaREVERSED PRIMEbDOUBLE PRIMEbTRIPLE PRIMEaCARET
aSINGLE LEFT-POINTING ANGLE QUOTATION MARKbRIGHT-POINTING ANGLE QUOTATION MARKaREFERENCE MARK
aDOUBLE EXCLAMATION MARKaINTERROBANGaOVERLINEaUNDERTIEaCHARACTER TIEaCARET INSERTION POINTaASTERISM
aHYPHEN BULLETaFRACTION SLASHaLEFT SQUARE BRACKET WITH QUILLaRIGHT SQUARE BRACKET WITH QUILL
aDOUBLE QUESTION MARKaQUESTION EXCLAMATION MARKaEXCLAMATION QUESTION MARKaTIRONIAN SIGN ET
aREVERSED PILCROW SIGNaBLACK LEFTWARDS BULLETbRIGHTWARDS BULLETaLOW ASTERISKaREVERSED SEMICOLON
aCLOSE UPaTWO ASTERISKS ALIGNED VERTICALLYaCOMMERCIAL MINUS SIGNaSWUNG DASHaINVERTED UNDERTIE
aFLOWER PUNCTUATION MARKaTHREE DOT PUNCTUATIONaQUADRUPLE PRIMEaFOUR DOT PUNCTUATION
aFIVE DOT PUNCTUATIONaTWO DOT PUNCTUATIONaFOUR DOT MARKaDOTTED CROSSaTRICOLONaVERTICAL FOUR DOTS
aMEDIUM MATHEMATICAL SPACEaWORD JOINERaFUNCTION APPLICATIONaINVISIBLE TIMESbSEPARATORbPLUSx1
aLEFT-TO-RIGHT ISOLATEaRIGHT-TO-LEFT ISOLATEaFIRST STRONG ISOLATEaPOP DIRECTIONAL ISOLATE
aINHIBIT SYMMETRIC SWAPPINGaACTIVATE SYMMETRIC SWAPPINGaINHIBIT ARABIC FORM SHAPING
aACTIVATE ARABIC FORM SHAPINGaNATIONAL DIGIT SHAPESaNOMINAL DIGIT SHAPESaSUPERSCRIPT ZERO
bLATIN SMALL LETTER Ix2bFOURbFIVEbSIXbSEVENbEIGHTbNINEbPLUS SIGNbMINUSbEQUALS SIGNbLEFT PARENTHESIS
bRIGHT PARENTHESISbLATIN SMALL LETTER NaSUBSCRIPT ZERObONEbTWObTHREEbFOURbFIVEbSIXbSEVENbEIGHTbNINE
bPLUS SIGNbMINUSbEQUALS SIGNbLEFT PARENTHESISbRIGHT PARENTHESISx1aLATIN SUBSCRIPT SMALL LETTER AeE
eOeXeSCHWAeHeKeLeMeNePeSeTx3aEURO-CURRENCY SIGNaCOLON SIGNaCRUZEIRO SIGNaFRENCH FRANC SIGN
aLIRA SIGNaMILL SIGNaNAIRA SIGNaPESETA SIGNaRUPEE SIGNaWON SIGNaNEW SHEQEL SIGNaDONG SIGNaEURO SIGN
aKIP SIGNaTUGRIK SIGNaDRACHMA SIGNaGERMAN PENNY SIGNaPESO SIGNaGUARANI SIGNaAUSTRAL SIGN
aHRYVNIA SIGNaCEDI SIGNaLIVRE TOURNOIS SIGNaSPESMILO SIGNaTENGE SIGNaINDIAN RUPEE SIGN
aTURKISH LIRA SIGNaNORDIC MARK SIGNaMANAT SIGNaRUBLE SIGNaLARI SIGNaBITCOIN SIGNaSOM SIGNx15
aCOMBINING LEFT HARPOON ABOVEbRIGHT HARPOON ABOVEbLONG VERTICAL LINE OVERLAY
bSHORT VERTICAL LINE OVERLAYbANTICLOCKWISE ARROW ABOVEbCLOCKWISE ARROW ABOVEbLEFT ARROW ABOVE
bRIGHT ARROW ABOVEbRING OVERLAYbCLOCKWISE RING OVERLAYbANTICLOCKWISE RING OVERLAYbTHREE DOTS ABOVE
bFOUR DOTS ABOVEbENCLOSING CIRCLEcSQUAREcDIAMONDcCIRCLE BACKSLASHbLEFT RIGHT ARROW ABOVE
bENCLOSING SCREENcKEYCAPcUPWARD POINTING TRIANGLEbREVERSE SOLIDUS OVERLAY
bDOUBLE VERTICAL STROKE OVERLAYbANNUITY SYMBOLbTRIPLE UNDERDOTbWIDE BRIDGE ABOVE
bLEFTWARDS ARROW OVERLAYbLONG DOUBLE SOLIDUS OVERLAYbRIGHTWARDS HARPOON WITH BARB DOWNWARDS
bLEFTWARDS HARPOON WITH BARB DOWNWARDSbLEFT ARROW BELOWbRIGHT ARROW BELOWbASTERISK ABOVEx15
aACCOUNT OFaADDRESSED TO THE SUBJECTaDOUBLE-STRUCK CAPITAL CaDEGREE CELSIUSaCENTRE LINE SYMBOL
aCARE OFaCADA UNAaEULER CONSTANTaSCRUPLEaDEGREE FAHRENHEITaSCRIPT SMALL GbCAPITAL H
aBLACK-LETTER CAPITAL HaDOUBLE-STRUCK CAPITAL HaPLANCK CONSTANTcOVER TWO PIaSCRIPT CAPITAL I
aBLACK-LETTER CAPITAL IaSCRIPT CAPITAL LbSMALL LaL B BAR SYMBOLaDOUBLE-STRUCK CAPITAL NaNUMERO SIGN
aSOUND RECORDING COPYRIGHTaSCRIPT CAPITAL PaDOUBLE-STRUCK CAPITAL PcQaSCRIPT CAPITAL R
aBLACK-LETTER CAPITAL RaDOUBLE-STRUCK CAPITAL RaPRESCRIPTION TAKEaRESPONSEaSERVICE MARK
aTELEPHONE SIGNaTRADE MARK SIGNaVERSICLEaDOUBLE-STRUCK CAPITAL ZaOUNCE SIGNaOHM SIGN
aINVERTED OHM SIGNaBLACK-LETTER CAPITAL ZaTURNED GREEK SMALL LETTER IOTAaKELVIN SIGNaANGSTROM SIGN
aSCRIPT CAPITAL BaBLACK-LETTER CAPITAL CaESTIMATED SYMBOLaSCRIPT SMALL EbCAPITAL EcF
aTURNED CAPITAL FaSCRIPT CAPITAL MbSMALL OaALEF SYMBOLaBET SYMBOLaGIMEL SYMBOLaDALET SYMBOL
aINFORMATION SOURCEaROTATED CAPITAL QaFACSIMILE SIGNaDOUBLE-STRUCK SMALL PIcGAMMAbCAPITAL GAMMAcPI
bN-ARY SUMMATIONaTURNED SANS-SERIF CAPITAL GdLaREVERSED SANS-SERIF CAPITAL L
aTURNED SANS-SERIF CAPITAL YaDOUBLE-STRUCK ITALIC CAPITAL DcSMALL DdEdIdJaPROPERTY LINE
aTURNED AMPERSANDaPER SIGNaAKTIESELSKABaTURNED SMALL FaSYMBOL FOR SAMARITAN SOURCE
aVULGAR FRACTION ONE SEVENTHdNINTHdTENTHdTHIRDcTWO THIRDScONE FIFTHcTWO FIFTHScTHREE FIFTHS
cFOUR FIFTHScONE SIXTHcFIVE SIXTHScONE EIGHTHcTHREE EIGHTHScFIVE EIGHTHScSEVEN EIGHTHS
aFRACTION NUMERATOR ONEaROMAN NUMERAL ONEcTWOcTHREEcFOURcFIVEcSIXcSEVENcEIGHTcNINEcTENcELEVEN
cTWELVEcFIFTYcONE HUNDREDcFIVE HUNDREDcONE THOUSANDaSMALL ROMAN NUMERAL ONEdTWOdTHREEdFOURdFIVEdSIX
dSEVENdEIGHTdNINEdTENdELEVENdTWELVEdFIFTYdONE HUNDREDdFIVE HUNDREDdONE THOUSAND
aROMAN NUMERAL ONE THOUSAND C DcFIVE THOUSANDcTEN THOUSANDcREVERSED ONE HUNDRED
aLATIN SMALL LETTER REVERSED CaROMAN NUMERAL SIX LATE FORMcFIFTY EARLY FORMdTHOUSAND
cONE HUNDRED THOUSANDaVULGAR FRACTION ZERO THIRDSaTURNED DIGIT TWOcTHREEx4aLEFTWARDS ARROW
aUPWARDS ARROWaRIGHTWARDS ARROWaDOWNWARDS ARROWaLEFT RIGHT ARROWaUP DOWN ARROWaNORTH WEST ARROW
bEAST ARROWaSOUTH EAST ARROWbWEST ARROWaLEFTWARDS ARROW WITH STROKEaRIGHTWARDS ARROW WITH STROKE
aLEFTWARDS WAVE ARROWaRIGHTWARDS WAVE ARROWaLEFTWARDS TWO HEADED ARROWaUPWARDS TWO HEADED ARROW
aRIGHTWARDS TWO HEADED ARROWaDOWNWARDS TWO HEADED ARROWaLEFTWARDS ARROW WITH TAIL
aRIGHTWARDS ARROW WITH TAILaLEFTWARDS ARROW FROM BARaUPWARDS ARROW FROM BAR
aRIGHTWARDS ARROW FROM BARaDOWNWARDS ARROW FROM BARaUP DOWN ARROW WITH BASE
aLEFTWARDS ARROW WITH HOOKaRIGHTWARDS ARROW WITH HOOKaLEFTWARDS ARROW WITH LOOP
aRIGHTWARDS ARROW WITH LOOPaLEFT RIGHT WAVE ARROWcARROW WITH STROKEaDOWNWARDS ZIGZAG ARROW
aUPWARDS ARROW WITH TIP LEFTWARDSeRIGHTWARDSaDOWNWARDS ARROW WITH TIP LEFTWARDSeRIGHTWARDS
aRIGHTWARDS ARROW WITH CORNER DOWNWARDSaDOWNWARDS ARROW WITH CORNER LEFTWARDS
aANTICLOCKWISE TOP SEMICIRCLE ARROWaCLOCKWISE TOP SEMICIRCLE ARROWaNORTH WEST ARROW TO LONG BAR
aLEFTWARDS ARROW TO BAR OVER RIGHTWARDS ARROW TO BARaANTICLOCKWISE OPEN CIRCLE ARROW
aCLOCKWISE OPEN CIRCLE ARROWaLEFTWARDS HARPOON WITH BARB UPWARDSeDOWNWARDS
aUPWARDS HARPOON WITH BARB RIGHTWARDSeLEFTWARDSaRIGHTWARDS HARPOON WITH BARB UPWARDSeDOWNWARDS
aDOWNWARDS HARPOON WITH BARB RIGHTWARDSeLEFTWARDSaRIGHTWARDS ARROW OVER LEFTWARDS ARROW
aUPWARDS ARROW LEFTWARDS OF DOWNWARDS ARROWaLEFTWARDS ARROW OVER RIGHTWARDS ARROWbPAIRED ARROWS
aUPWARDS PAIRED ARROWSaRIGHTWARDS PAIRED ARROWSaDOWNWARDS PAIRED ARROWS
aLEFTWARDS HARPOON OVER RIGHTWARDS HARPOONaRIGHTWARDS HARPOON OVER LEFTWARDS HARPOON
aLEFTWARDS DOUBLE ARROW WITH STROKEaLEFT RIGHT DOUBLE ARROW WITH STROKE
aRIGHTWARDS DOUBLE ARROW WITH STROKEaLEFTWARDS DOUBLE ARROWaUPWARDS DOUBLE ARROW
aRIGHTWARDS DOUBLE ARROWaDOWNWARDS DOUBLE ARROWaLEFT RIGHT DOUBLE ARROWaUP DOWN DOUBLE ARROW
aNORTH WEST DOUBLE ARROWbEAST DOUBLE ARROWaSOUTH EAST DOUBLE ARROWbWEST DOUBLE ARROW
aLEFTWARDS TRIPLE ARROWaRIGHTWARDS TRIPLE ARROWaLEFTWARDS SQUIGGLE ARROWaRIGHTWARDS SQUIGGLE ARROW
aUPWARDS ARROW WITH DOUBLE STROKEaDOWNWARDS ARROW WITH DOUBLE STROKEaLEFTWARDS DASHED ARROW
aUPWARDS DASHED ARROWaRIGHTWARDS DASHED ARROWaDOWNWARDS DASHED ARROWaLEFTWARDS ARROW TO BAR
aRIGHTWARDS ARROW TO BARaLEFTWARDS WHITE ARROWaUPWARDS WHITE ARROWaRIGHTWARDS WHITE ARROW
aDOWNWARDS WHITE ARROWaUPWARDS WHITE ARROW FROM BARdON PEDESTALfWITH HORIZONTAL BARgVERTICAL BAR
cDOUBLE ARROWeON PEDESTALaRIGHTWARDS WHITE ARROW FROM WALLaNORTH WEST ARROW TO CORNER
aSOUTH EAST ARROW TO CORNERaUP DOWN WHITE ARROWaRIGHT ARROW WITH SMALL CIRCLE
aDOWNWARDS ARROW LEFTWARDS OF UPWARDS ARROWaTHREE RIGHTWARDS ARROWS
aLEFTWARDS ARROW WITH VERTICAL STROKEaRIGHTWARDS ARROW WITH VERTICAL STROKE
aLEFT RIGHT ARROW WITH VERTICAL STROKEaLEFTWARDS ARROW WITH DOUBLE VERTICAL STROKE
aRIGHTWARDS ARROW WITH DOUBLE VERTICAL STROKEaLEFT RIGHT ARROW WITH DOUBLE VERTICAL STROKE
aLEFTWARDS OPEN-HEADED ARROWaRIGHTWARDS OPEN-HEADED ARROWaLEFT RIGHT OPEN-HEADED ARROWaFOR ALL
aCOMPLEMENTaPARTIAL DIFFERENTIALaTHERE EXISTSbDOES NOT EXISTaEMPTY SETaINCREMENTaNABLAaELEMENT OF
aNOT AN ELEMENT OFaSMALL ELEMENT OFaCONTAINS AS MEMBERaDOES NOT CONTAIN AS MEMBER
aSMALL CONTAINS AS MEMBERaEND OF PROOFaN-ARY PRODUCTbCOPRODUCTbSUMMATIONaMINUS SIGN
aMINUS-OR-PLUS SIGNaDOT PLUSaDIVISION SLASHaSET MINUSaASTERISK OPERATORaRING OPERATOR
aBULLET OPERATORaSQUARE ROOTaCUBE ROOTaFOURTH ROOTaPROPORTIONAL TOaINFINITYaRIGHT ANGLEaANGLE
aMEASURED ANGLEaSPHERICAL ANGLEaDIVIDESaDOES NOT DIVIDEaPARALLEL TOaNOT PARALLEL TOaLOGICAL ANDbOR
aINTERSECTIONaUNIONaINTEGRALaDOUBLE INTEGRALaTRIPLE INTEGRALaCONTOUR INTEGRALaSURFACE INTEGRAL
aVOLUME INTEGRALaCLOCKWISE INTEGRALbCONTOUR INTEGRALaANTICLOCKWISE CONTOUR INTEGRALaTHEREFORE
aBECAUSEaRATIOaPROPORTIONaDOT MINUSaEXCESSaGEOMETRIC PROPORTIONaHOMOTHETICaTILDE OPERATOR
aREVERSED TILDEaINVERTED LAZY SaSINE WAVEaWREATH PRODUCTaNOT TILDEaMINUS TILDE
aASYMPTOTICALLY EQUAL TOaNOT ASYMPTOTICALLY EQUAL TOaAPPROXIMATELY EQUAL TO
bBUT NOT ACTUALLY EQUAL TOaNEITHER APPROXIMATELY NOR ACTUALLY EQUAL TOaALMOST EQUAL TO
aNOT ALMOST EQUAL TOaALMOST EQUAL OR EQUAL TOaTRIPLE TILDEaALL EQUAL TOaEQUIVALENT TO
aGEOMETRICALLY EQUIVALENT TOaDIFFERENCE BETWEENaAPPROACHES THE LIMITaGEOMETRICALLY EQUAL TO
aAPPROXIMATELY EQUAL TO OR THE IMAGE OFaIMAGE OF OR APPROXIMATELY EQUAL TOaCOLON EQUALS
aEQUALS COLONaRING IN EQUAL TObEQUAL TOaCORRESPONDS TOaESTIMATESaEQUIANGULAR TOaSTAR EQUALS
aDELTA EQUAL TOaEQUAL TO BY DEFINITIONaMEASURED BYaQUESTIONED EQUAL TOaNOT EQUAL TOaIDENTICAL TO
aNOT IDENTICAL TOaSTRICTLY EQUIVALENT TOaLESS-THAN OR EQUAL TOaGREATER-THAN OR EQUAL TO
aLESS-THAN OVER EQUAL TOaGREATER-THAN OVER EQUAL TOaLESS-THAN BUT NOT EQUAL TO
aGREATER-THAN BUT NOT EQUAL TOaMUCH LESS-THANbGREATER-THANaBETWEENaNOT EQUIVALENT TObLESS-THAN
bGREATER-THANaNEITHER LESS-THAN NOR EQUAL TObGREATER-THAN NOR EQUAL TOaLESS-THAN OR EQUIVALENT TO
aGREATER-THAN OR EQUIVALENT TOaNEITHER LESS-THAN NOR EQUIVALENT TObGREATER-THAN NOR EQUIVALENT TO
aLESS-THAN OR GREATER-THANaGREATER-THAN OR LESS-THANaNEITHER LESS-THAN NOR GREATER-THAN
bGREATER-THAN NOR LESS-THANaPRECEDESaSUCCEEDSaPRECEDES OR EQUAL TOaSUCCEEDS OR EQUAL TO
aPRECEDES OR EQUIVALENT TOaSUCCEEDS OR EQUIVALENT TOaDOES NOT PRECEDEcSUCCEEDaSUBSET OFaSUPERSET OF
aNOT A SUBSET OFcSUPERSET OFaSUBSET OF OR EQUAL TOaSUPERSET OF OR EQUAL TO
aNEITHER A SUBSET OF NOR EQUAL TOcSUPERSET OF NOR EQUAL TOaSUBSET OF WITH NOT EQUAL TO
aSUPERSET OF WITH NOT EQUAL TOaMULTISETbMULTIPLICATIONbUNIONaSQUARE IMAGE OFbORIGINAL OF
bIMAGE OF OR EQUAL TObORIGINAL OF OR EQUAL TObCAPbCUPaCIRCLED PLUSbMINUSbTIMESbDIVISION SLASH
bDOT OPERATORbRING OPERATORbASTERISK OPERATORbEQUALSbDASHaSQUARED PLUSbMINUSbTIMESbDOT OPERATOR
aRIGHT TACKaLEFT TACKaDOWN TACKaUP TACKaASSERTIONaMODELSaTRUEaFORCES
aTRIPLE VERTICAL BAR RIGHT TURNSTILEaDOUBLE VERTICAL BAR DOUBLE RIGHT TURNSTILEaDOES NOT PROVE
aNOT TRUEaDOES NOT FORCEaNEGATED DOUBLE VERTICAL BAR DOUBLE RIGHT TURNSTILEaPRECEDES UNDER RELATION
aSUCCEEDS UNDER RELATIONaNORMAL SUBGROUP OFaCONTAINS AS NORMAL SUBGROUP
aNORMAL SUBGROUP OF OR EQUAL TOaCONTAINS AS NORMAL SUBGROUP OR EQUAL TOaORIGINAL OFaIMAGE OF
aMULTIMAPaHERMITIAN CONJUGATE MATRIXaINTERCALATEaXORaNANDaNORaRIGHT ANGLE WITH ARCbTRIANGLE
aN-ARY LOGICAL ANDcORbINTERSECTIONbUNIONaDIAMOND OPERATORaDOT OPERATORaSTAR OPERATORaDIVISION TIMES
aBOWTIEaLEFT NORMAL FACTOR SEMIDIRECT PRODUCTaRIGHT NORMAL FACTOR SEMIDIRECT PRODUCT
aLEFT SEMIDIRECT PRODUCTaRIGHT SEMIDIRECT PRODUCTaREVERSED TILDE EQUALSaCURLY LOGICAL ORcAND
aDOUBLE SUBSETbSUPERSETbINTERSECTIONbUNIONaPITCHFORKaEQUAL AND PARALLEL TOaLESS-THAN WITH DOT
aGREATER-THAN WITH DOTaVERY MUCH LESS-THANcGREATER-THANaLESS-THAN EQUAL TO OR GREATER-THAN
aGREATER-THAN EQUAL TO OR LESS-THANaEQUAL TO OR LESS-THANdGREATER-THANdPRECEDESdSUCCEEDS
aDOES NOT PRECEDE OR EQUALcSUCCEED OR EQUALaNOT SQUARE IMAGE OF OR EQUAL TOcORIGINAL OF OR EQUAL TO
aSQUARE IMAGE OF OR NOT EQUAL TObORIGINAL OF OR NOT EQUAL TOaLESS-THAN BUT NOT EQUIVALENT TO
aGREATER-THAN BUT NOT EQUIVALENT TOaPRECEDES BUT NOT EQUIVALENT TOaSUCCEEDS BUT NOT EQUIVALENT TO
aNOT NORMAL SUBGROUP OFaDOES NOT CONTAIN AS NORMAL SUBGROUPaNOT NORMAL SUBGROUP OF OR EQUAL TO
aDOES NOT CONTAIN AS NORMAL SUBGROUP OR EQUALaVERTICAL ELLIPSISaMIDLINE HORIZONTAL ELLIPSIS
aUP RIGHT DIAGONAL ELLIPSISaDOWN RIGHT DIAGONAL ELLIPSISaELEMENT OF WITH LONG HORIZONTAL STROKE
dVERTICAL BAR AT END OF HORIZONTAL STROKE
aSMALL ELEMENT OF WITH VERTICAL BAR AT END OF HORIZONTAL STROKEaELEMENT OF WITH DOT ABOVEdOVERBAR
aSMALL ELEMENT OF WITH OVERBARaELEMENT OF WITH UNDERBARdTWO HORIZONTAL STROKES
aCONTAINS WITH LONG HORIZONTAL STROKEcVERTICAL BAR AT END OF HORIZONTAL STROKE
aSMALL CONTAINS WITH VERTICAL BAR AT END OF HORIZONTAL STROKEaCONTAINS WITH OVERBAR
aSMALL CONTAINS WITH OVERBARaZ NOTATION BAG MEMBERSHIPaDIAMETER SIGNaELECTRIC ARROWaHOUSE
aUP ARROWHEADaDOWN ARROWHEADaPROJECTIVEaPERSPECTIVEaWAVY LINEaLEFT CEILINGaRIGHT CEILINGaLEFT FLOOR
aRIGHT FLOORaBOTTOM RIGHT CROPbLEFT CROPaTOP RIGHT CROPbLEFT CROPaREVERSED NOT SIGNaSQUARE LOZENGE
aARCaSEGMENTaSECTORaTELEPHONE RECORDERaPOSITION INDICATORaVIEWDATA SQUAREaPLACE OF INTEREST SIGN
aTURNED NOT SIGNaWATCHaHOURGLASSaTOP LEFT CORNERbRIGHT CORNERaBOTTOM LEFT CORNERbRIGHT CORNER
aTOP HALF INTEGRALaBOTTOM HALF INTEGRALaFROWNaSMILEaUP ARROWHEAD BETWEEN TWO HORIZONTAL BARS
aOPTION KEYaERASE TO THE RIGHTaX IN A RECTANGLE BOXaKEYBOARDaLEFT-POINTING ANGLE BRACKET
aRIGHT-POINTING ANGLE BRACKETaERASE TO THE LEFTaBENZENE RINGaCYLINDRICITYaALL AROUND-PROFILE
aSYMMETRYaTOTAL RUNOUTaDIMENSION ORIGINaCONICAL TAPERaSLOPEaCOUNTERBOREaCOUNTERSINK
aAPL FUNCTIONAL SYMBOL I-BEAMdSQUISH QUADdQUAD EQUALeDIVIDEeDIAMONDeJOTeCIRCLEdCIRCLE STILEeJOT
dSLASH BARdBACKSLASH BARdQUAD SLASHeBACKSLASHeLESS-THANeGREATER-THANdLEFTWARDS VANEdRIGHTWARDS VANE
dQUAD LEFTWARDS ARROWeRIGHTWARDS ARROWdCIRCLE BACKSLASHdDOWN TACK UNDERBARdDELTA STILE
dQUAD DOWN CARETeDELTAdDOWN TACK JOTdUPWARDS VANEdQUAD UPWARDS ARROWdUP TACK OVERBARdDEL STILE
dQUAD UP CARETeDELdUP TACK JOTdDOWNWARDS VANEdQUAD DOWNWARDS ARROWdQUOTE UNDERBARdDELTA UNDERBAR
dDIAMOND UNDERBARdJOT UNDERBARdCIRCLE UNDERBARdUP SHOE JOTdQUOTE QUADdCIRCLE STARdQUAD COLON
dUP TACK DIAERESISdDEL DIAERESISdSTAR DIAERESISdJOT DIAERESISdCIRCLE DIAERESISdDOWN SHOE STILE
dLEFT SHOE STILEdTILDE DIAERESISdGREATER-THAN DIAERESISdCOMMA BARdDEL TILDEdZILDEdSTILE TILDE
dSEMICOLON UNDERBARdQUAD NOT EQUALeQUESTIONdDOWN CARET TILDEdUP CARET TILDEdIOTAdRHOdOMEGA
dALPHA UNDERBARdEPSILON UNDERBARdIOTA UNDERBARdOMEGA UNDERBARdALPHAaNOT CHECK MARK
aRIGHT ANGLE WITH DOWNWARDS ZIGZAG ARROWaSHOULDERED OPEN BOXaBELL SYMBOL
aVERTICAL LINE WITH MIDDLE DOTaINSERTION SYMBOLaCONTINUOUS UNDERLINE SYMBOL
aDISCONTINUOUS UNDERLINE SYMBOLaEMPHASIS SYMBOLaCOMPOSITION SYMBOL
aWHITE SQUARE WITH CENTRE VERTICAL LINEaENTER SYMBOLaALTERNATIVE KEY SYMBOLaHELM SYMBOL
aCIRCLED HORIZONTAL BAR WITH NOTCHbTRIANGLE DOWNaBROKEN CIRCLE WITH NORTHWEST ARROWaUNDO SYMBOL
aMONOSTABLE SYMBOLaHYSTERESIS SYMBOLaOPEN-CIRCUIT-OUTPUT H-TYPE SYMBOLbL-TYPE SYMBOL
aPASSIVE-PULL-DOWN-OUTPUT SYMBOLaPASSIVE-PULL-UP-OUTPUT SYMBOLaDIRECT CURRENT SYMBOL FORM TWO
aSOFTWARE-FUNCTION SYMBOLaAPL FUNCTIONAL SYMBOL QUADaDECIMAL SEPARATOR KEY SYMBOLaPREVIOUS PAGE
aNEXT PAGEaPRINT SCREEN SYMBOLaCLEAR SCREEN SYMBOLaLEFT PARENTHESIS UPPER HOOKcEXTENSIONcLOWER HOOK
aRIGHT PARENTHESIS UPPER HOOKcEXTENSIONcLOWER HOOKaLEFT SQUARE BRACKET UPPER CORNERdEXTENSION
dLOWER CORNERaRIGHT SQUARE BRACKET UPPER CORNERdEXTENSIONdLOWER CORNER
aLEFT CURLY BRACKET UPPER HOOKdMIDDLE PIECEdLOWER HOOKaCURLY BRACKET EXTENSION
aRIGHT CURLY BRACKET UPPER HOOKdMIDDLE PIECEdLOWER HOOKaINTEGRAL EXTENSION
aHORIZONTAL LINE EXTENSIONaUPPER LEFT OR LOWER RIGHT CURLY BRACKET SECTION
bRIGHT OR LOWER LEFT CURLY BRACKET SECTIONaSUMMATION TOPbBOTTOMaTOP SQUARE BRACKET
aBOTTOM SQUARE BRACKETdOVER TOP SQUARE BRACKETaRADICAL SYMBOL BOTTOMaLEFT VERTICAL BOX LINE
aRIGHT VERTICAL BOX LINEaHORIZONTAL SCAN LINE-1cLINE-3cLINE-7cLINE-9
aDENTISTRY SYMBOL LIGHT VERTICAL AND TOP RIGHTfBOTTOM RIGHTeWITH CIRCLE
dDOWN AND HORIZONTAL WITH CIRCLEdUP AND HORIZONTAL WITH CIRCLEdVERTICAL WITH TRIANGLE
dDOWN AND HORIZONTAL WITH TRIANGLEdUP AND HORIZONTAL WITH TRIANGLEdVERTICAL AND WAVE
dDOWN AND HORIZONTAL WITH WAVEdUP AND HORIZONTAL WITH WAVEdDOWN AND HORIZONTALdUP AND HORIZONTAL
dVERTICAL AND TOP LEFTfBOTTOM LEFTaSQUARE FOOTaRETURN SYMBOLaEJECT SYMBOLaVERTICAL LINE EXTENSION
aMETRICAL BREVEbLONG OVER SHORTbSHORT OVER LONGbLONG OVER TWO SHORTSbTWO SHORTS OVER LONGdJOINED
bTRISEMEbTETRASEMEbPENTASEMEaEARTH GROUNDaFUSEaTOP PARENTHESISaBOTTOM PARENTHESISaTOP CURLY BRACKET
aBOTTOM CURLY BRACKETaTOP TORTOISE SHELL BRACKETaBOTTOM TORTOISE SHELL BRACKETaWHITE TRAPEZIUM
aBENZENE RING WITH CIRCLEaSTRAIGHTNESSaFLATNESSaAC CURRENTaELECTRICAL INTERSECTION
aDECIMAL EXPONENT SYMBOLaBLACK RIGHT-POINTING DOUBLE TRIANGLEbLEFT-POINTING DOUBLE TRIANGLE
bUP-POINTING DOUBLE TRIANGLEbDOWN-POINTING DOUBLE TRIANGLE
bRIGHT-POINTING DOUBLE TRIANGLE WITH VERTICAL BARbLEFT-POINTING DOUBLE TRIANGLE WITH VERTICAL BAR
bRIGHT-POINTING TRIANGLE WITH DOUBLE VERTICAL BARaALARM CLOCKaSTOPWATCHaTIMER CLOCK
aHOURGLASS WITH FLOWING SANDaBLACK MEDIUM LEFT-POINTING TRIANGLEcRIGHT-POINTING TRIANGLE
cUP-POINTING TRIANGLEcDOWN-POINTING TRIANGLEaDOUBLE VERTICAL BARaBLACK SQUARE FOR STOP
bCIRCLE FOR RECORDaPOWER SYMBOLbON-OFF SYMBOLbON SYMBOLbSLEEP SYMBOLaOBSERVER EYE SYMBOL
aSYMBOL FOR NULLcSTART OF HEADINGeTEXTcEND OF TEXTeTRANSMISSIONcENQUIRYcACKNOWLEDGEcBELLcBACKSPACE
cHORIZONTAL TABULATIONcLINE FEEDcVERTICAL TABULATIONcFORM FEEDcCARRIAGE RETURNcSHIFT OUTdIN
cDATA LINK ESCAPEcDEVICE CONTROL ONEeTWOeTHREEeFOURcNEGATIVE ACKNOWLEDGEcSYNCHRONOUS IDLE
cEND OF TRANSMISSION BLOCKcCANCELcEND OF MEDIUMcSUBSTITUTEcESCAPEcFILE SEPARATORcGROUP SEPARATOR
cRECORD SEPARATORcUNIT SEPARATORcSPACEcDELETEaBLANK SYMBOLaOPEN BOXaSYMBOL FOR NEWLINE
cDELETE FORM TWOcSUBSTITUTE FORM TWOx25aOCR HOOKbCHAIRbFORKbINVERTED FORKbBELT BUCKLEbBOW TIE
bBRANCH BANK IDENTIFICATIONbAMOUNT OF CHECKbDASHbCUSTOMER ACCOUNT NUMBERbDOUBLE BACKSLASHx21
aCIRCLED DIGIT ONEcTWOcTHREEcFOURcFIVEcSIXcSEVENcEIGHTcNINEbNUMBER TENcELEVENcTWELVEcTHIRTEEN
cFOURTEENcFIFTEENcSIXTEENcSEVENTEENcEIGHTEENcNINETEENcTWENTYaPARENTHESIZED DIGIT ONEcTWOcTHREEcFOUR
cFIVEcSIXcSEVENcEIGHTcNINEbNUMBER TENcELEVENcTWELVEcTHIRTEENcFOURTEENcFIFTEENcSIXTEENcSEVENTEEN
cEIGHTEENcNINETEENcTWENTYaDIGIT ONE FULL STOPbTWO FULL STOPbTHREE FULL STOPbFOUR FULL STOP
bFIVE FULL STOPbSIX FULL STOPbSEVEN FULL STOPbEIGHT FULL STOPbNINE FULL STOPaNUMBER TEN FULL STOP
bELEVEN FULL STOPbTWELVE FULL STOPbTHIRTEEN FULL STOPbFOURTEEN FULL STOPbFIFTEEN FULL STOP
bSIXTEEN FULL STOPbSEVENTEEN FULL STOPbEIGHTEEN FULL STOPbNINETEEN FULL STOPbTWENTY FULL STOP
aPARENTHESIZED LATIN SMALL LETTER AeBeCeDeEeFeGeHeIeJeKeLeMeNeOePeQeReSeTeUeVeWeXeYeZ
aCIRCLED LATIN CAPITAL LETTER AeBeCeDeEeFeGeHeIeJeKeLeMeNeOePeQeReSeTeUeVeWeXeYeZcSMALL LETTER AeB
eCeDeEeFeGeHeIeJeKeLeMeNeOePeQeReSeTeUeVeWeXeYeZbDIGIT ZEROaNEGATIVE CIRCLED NUMBER ELEVENdTWELVE
dTHIRTEENdFOURTEENdFIFTEENdSIXTEENdSEVENTEENdEIGHTEENdNINETEENdTWENTYaDOUBLE CIRCLED DIGIT ONEdTWO
dTHREEdFOURdFIVEdSIXdSEVENdEIGHTdNINEcNUMBER TENaNEGATIVE CIRCLED DIGIT ZERO
aBOX DRAWINGS LIGHT HORIZONTALcHEAVY HORIZONTALcLIGHT VERTICALcHEAVY VERTICAL
cLIGHT TRIPLE DASH HORIZONTALcHEAVY TRIPLE DASH HORIZONTALcLIGHT TRIPLE DASH VERTICAL
cHEAVY TRIPLE DASH VERTICALcLIGHT QUADRUPLE DASH HORIZONTALcHEAVY QUADRUPLE DASH HORIZONTAL
cLIGHT QUADRUPLE DASH VERTICALcHEAVY QUADRUPLE DASH VERTICALcLIGHT DOWN AND RIGHT
cDOWN LIGHT AND RIGHT HEAVYdHEAVY AND RIGHT LIGHTcHEAVY DOWN AND RIGHTcLIGHT DOWN AND LEFT
cDOWN LIGHT AND LEFT HEAVYdHEAVY AND LEFT LIGHTcHEAVY DOWN AND LEFTcLIGHT UP AND RIGHT
cUP LIGHT AND RIGHT HEAVYdHEAVY AND RIGHT LIGHTcHEAVY UP AND RIGHTcLIGHT UP AND LEFT
cUP LIGHT AND LEFT HEAVYdHEAVY AND LEFT LIGHTcHEAVY UP AND LEFTcLIGHT VERTICAL AND RIGHT
cVERTICAL LIGHT AND RIGHT HEAVYcUP HEAVY AND RIGHT DOWN LIGHTcDOWN HEAVY AND RIGHT UP LIGHT
cVERTICAL HEAVY AND RIGHT LIGHTcDOWN LIGHT AND RIGHT UP HEAVYcUP LIGHT AND RIGHT DOWN HEAVY
cHEAVY VERTICAL AND RIGHTcLIGHT VERTICAL AND LEFTcVERTICAL LIGHT AND LEFT HEAVY
cUP HEAVY AND LEFT DOWN LIGHTcDOWN HEAVY AND LEFT UP LIGHTcVERTICAL HEAVY AND LEFT LIGHT
cDOWN LIGHT AND LEFT UP HEAVYcUP LIGHT AND LEFT DOWN HEAVYcHEAVY VERTICAL AND LEFT
cLIGHT DOWN AND HORIZONTALcLEFT HEAVY AND RIGHT DOWN LIGHTcRIGHT HEAVY AND LEFT DOWN LIGHT
cDOWN LIGHT AND HORIZONTAL HEAVYdHEAVY AND HORIZONTAL LIGHTcRIGHT LIGHT AND LEFT DOWN HEAVY
cLEFT LIGHT AND RIGHT DOWN HEAVYcHEAVY DOWN AND HORIZONTALcLIGHT UP AND HORIZONTAL
cLEFT HEAVY AND RIGHT UP LIGHTcRIGHT HEAVY AND LEFT UP LIGHTcUP LIGHT AND HORIZONTAL HEAVY
dHEAVY AND HORIZONTAL LIGHTcRIGHT LIGHT AND LEFT UP HEAVYcLEFT LIGHT AND RIGHT UP HEAVY
cHEAVY UP AND HORIZONTALcLIGHT VERTICAL AND HORIZONTALcLEFT HEAVY AND RIGHT VERTICAL LIGHT
cRIGHT HEAVY AND LEFT VERTICAL LIGHTcVERTICAL LIGHT AND HORIZONTAL HEAVY
cUP HEAVY AND DOWN HORIZONTAL LIGHTcDOWN HEAVY AND UP HORIZONTAL LIGHT
cVERTICAL HEAVY AND HORIZONTAL LIGHTcLEFT UP HEAVY AND RIGHT DOWN LIGHT
cRIGHT UP HEAVY AND LEFT DOWN LIGHTcLEFT DOWN HEAVY AND RIGHT UP LIGHT
cRIGHT DOWN HEAVY AND LEFT UP LIGHTcDOWN LIGHT AND UP HORIZONTAL HEAVY
cUP LIGHT AND DOWN HORIZONTAL HEAVYcRIGHT LIGHT AND LEFT VERTICAL HEAVY
cLEFT LIGHT AND RIGHT VERTICAL HEAVYcHEAVY VERTICAL AND HORIZONTALcLIGHT DOUBLE DASH HORIZONTAL
cHEAVY DOUBLE DASH HORIZONTALcLIGHT DOUBLE DASH VERTICALcHEAVY DOUBLE DASH VERTICAL
cDOUBLE HORIZONTALdVERTICALcDOWN SINGLE AND RIGHT DOUBLEdDOUBLE AND RIGHT SINGLE
cDOUBLE DOWN AND RIGHTcDOWN SINGLE AND LEFT DOUBLEdDOUBLE AND LEFT SINGLEcDOUBLE DOWN AND LEFT
cUP SINGLE AND RIGHT DOUBLEdDOUBLE AND RIGHT SINGLEcDOUBLE UP AND RIGHTcUP SINGLE AND LEFT DOUBLE
dDOUBLE AND LEFT SINGLEcDOUBLE UP AND LEFTcVERTICAL SINGLE AND RIGHT DOUBLEdDOUBLE AND RIGHT SINGLE
cDOUBLE VERTICAL AND RIGHTcVERTICAL SINGLE AND LEFT DOUBLEdDOUBLE AND LEFT SINGLE
cDOUBLE VERTICAL AND LEFTcDOWN SINGLE AND HORIZONTAL DOUBLEdDOUBLE AND HORIZONTAL SINGLE
cDOUBLE DOWN AND HORIZONTALcUP SINGLE AND HORIZONTAL DOUBLEdDOUBLE AND HORIZONTAL SINGLE
cDOUBLE UP AND HORIZONTALcVERTICAL SINGLE AND HORIZONTAL DOUBLEdDOUBLE AND HORIZONTAL SINGLE
cDOUBLE VERTICAL AND HORIZONTALcLIGHT ARC DOWN AND RIGHTgLEFTeUP AND LEFTgRIGHT
dDIAGONAL UPPER RIGHT TO LOWER LEFTfLEFT TO LOWER RIGHTeCROSSdLEFTdUPdRIGHTdDOWNcHEAVY LEFTdUP
dRIGHTdDOWNcLIGHT LEFT AND HEAVY RIGHTdUP AND HEAVY DOWNcHEAVY LEFT AND LIGHT RIGHT
dUP AND LIGHT DOWNaUPPER HALF BLOCKaLOWER ONE EIGHTH BLOCKcQUARTER BLOCKbTHREE EIGHTHS BLOCK
bHALF BLOCKbFIVE EIGHTHS BLOCKbTHREE QUARTERS BLOCKbSEVEN EIGHTHS BLOCKaFULL BLOCK
aLEFT SEVEN EIGHTHS BLOCKbTHREE QUARTERS BLOCKbFIVE EIGHTHS BLOCKbHALF BLOCKbTHREE EIGHTHS BLOCK
bONE QUARTER BLOCKcEIGHTH BLOCKaRIGHT HALF BLOCKaLIGHT SHADEaMEDIUM SHADEaDARK SHADE
aUPPER ONE EIGHTH BLOCKaRIGHT ONE EIGHTH BLOCKaQUADRANT LOWER LEFTcRIGHTbUPPER LEFT
dAND LOWER LEFT AND LOWER RIGHTfRIGHTeUPPER RIGHT AND LOWER LEFTiRIGHTcRIGHTdAND LOWER LEFT
gAND LOWER RIGHTaBLACK SQUAREaWHITE SQUAREcWITH ROUNDED CORNERScCONTAINING BLACK SMALL SQUARE
aSQUARE WITH HORIZONTAL FILLcVERTICAL FILLcORTHOGONAL CROSSHATCH FILL
cUPPER LEFT TO LOWER RIGHT FILLdRIGHT TO LOWER LEFT FILLcDIAGONAL CROSSHATCH FILL
aBLACK SMALL SQUAREaWHITE SMALL SQUAREaBLACK RECTANGLEaWHITE RECTANGLEaBLACK VERTICAL RECTANGLE
aWHITE VERTICAL RECTANGLEaBLACK PARALLELOGRAMaWHITE PARALLELOGRAMaBLACK UP-POINTING TRIANGLE
aWHITE UP-POINTING TRIANGLEaBLACK UP-POINTING SMALL TRIANGLEaWHITE UP-POINTING SMALL TRIANGLE
aBLACK RIGHT-POINTING TRIANGLEaWHITE RIGHT-POINTING TRIANGLEaBLACK RIGHT-POINTING SMALL TRIANGLE
aWHITE RIGHT-POINTING SMALL TRIANGLEaBLACK RIGHT-POINTING POINTERaWHITE RIGHT-POINTING POINTER
aBLACK DOWN-POINTING TRIANGLEaWHITE DOWN-POINTING TRIANGLEaBLACK DOWN-POINTING SMALL TRIANGLE
aWHITE DOWN-POINTING SMALL TRIANGLEaBLACK LEFT-POINTING TRIANGLEaWHITE LEFT-POINTING TRIANGLE
aBLACK LEFT-POINTING SMALL TRIANGLEaWHITE LEFT-POINTING SMALL TRIANGLEaBLACK LEFT-POINTING POINTER
aWHITE LEFT-POINTING POINTERaBLACK DIAMONDaWHITE DIAMONDcCONTAINING BLACK SMALL DIAMONDaFISHEYE
aLOZENGEaWHITE CIRCLEaDOTTED CIRCLEaCIRCLE WITH VERTICAL FILLaBULLSEYEaBLACK CIRCLE
aCIRCLE WITH LEFT HALF BLACKcRIGHT HALF BLACKcLOWER HALF BLACKcUPPER HALF BLACK
dRIGHT QUADRANT BLACKcALL BUT UPPER LEFT QUADRANT BLACKaLEFT HALF BLACK CIRCLE
aRIGHT HALF BLACK CIRCLEaINVERSE BULLETbWHITE CIRCLEaUPPER HALF INVERSE WHITE CIRCLE
aLOWER HALF INVERSE WHITE CIRCLEaUPPER LEFT QUADRANT CIRCULAR ARCbRIGHT QUADRANT CIRCULAR ARC
aLOWER RIGHT QUADRANT CIRCULAR ARCbLEFT QUADRANT CIRCULAR ARCaUPPER HALF CIRCLEaLOWER HALF CIRCLE
aBLACK LOWER RIGHT TRIANGLEcLEFT TRIANGLEbUPPER LEFT TRIANGLEcRIGHT TRIANGLEaWHITE BULLET
aSQUARE WITH LEFT HALF BLACKcRIGHT HALF BLACKcUPPER LEFT DIAGONAL HALF BLACK
cLOWER RIGHT DIAGONAL HALF BLACKaWHITE SQUARE WITH VERTICAL BISECTING LINE
bUP-POINTING TRIANGLE WITH DOTaUP-POINTING TRIANGLE WITH LEFT HALF BLACKdRIGHT HALF BLACK
aLARGE CIRCLEaWHITE SQUARE WITH UPPER LEFT QUADRANTdLOWER LEFT QUADRANTeRIGHT QUADRANT
dUPPER RIGHT QUADRANTbCIRCLE WITH UPPER LEFT QUADRANTdLOWER LEFT QUADRANTeRIGHT QUADRANT
dUPPER RIGHT QUADRANTaUPPER LEFT TRIANGLEbRIGHT TRIANGLEaLOWER LEFT TRIANGLEaWHITE MEDIUM SQUARE
aBLACK MEDIUM SQUAREaWHITE MEDIUM SMALL SQUAREaBLACK MEDIUM SMALL SQUAREaLOWER RIGHT TRIANGLE
aBLACK SUN WITH RAYSaCLOUDaUMBRELLAaSNOWMANaCOMETaBLACK STARaWHITE STARaLIGHTNINGaTHUNDERSTORMaSUN
aASCENDING NODEaDESCENDING NODEaCONJUNCTIONaOPPOSITIONaBLACK TELEPHONEaWHITE TELEPHONEaBALLOT BOX
cWITH CHECKdXaSALTIREaUMBRELLA WITH RAIN DROPSaHOT BEVERAGEaWHITE SHOGI PIECEaBLACK SHOGI PIECE
aSHAMROCKaREVERSED ROTATED FLORAL HEART BULLETaBLACK LEFT POINTING INDEXbRIGHT POINTING INDEX
aWHITE LEFT POINTING INDEXbUP POINTING INDEXbRIGHT POINTING INDEXbDOWN POINTING INDEX
aSKULL AND CROSSBONESaCAUTION SIGNaRADIOACTIVE SIGNaBIOHAZARD SIGNaCADUCEUSaANKHaORTHODOX CROSS
aCHI RHOaCROSS OF LORRAINEcJERUSALEMaSTAR AND CRESCENTaFARSI SYMBOLaADI SHAKTIaHAMMER AND SICKLE
aPEACE SYMBOLaYIN YANGaTRIGRAM FOR HEAVENcLAKEcFIREcTHUNDERcWINDcWATERcMOUNTAINcEARTH
aWHEEL OF DHARMAaWHITE FROWNING FACEbSMILING FACEaBLACK SMILING FACEaWHITE SUN WITH RAYS
aFIRST QUARTER MOONaLAST QUARTER MOONaMERCURYaFEMALE SIGNaEARTHaMALE SIGNaJUPITERaSATURNaURANUS
aNEPTUNEaPLUTOaARIESaTAURUSaGEMINIaCANCERaLEOaVIRGOaLIBRAaSCORPIUSaSAGITTARIUSaCAPRICORNaAQUARIUS
aPISCESaWHITE CHESS KINGcQUEENcROOKcBISHOPcKNIGHTcPAWNaBLACK CHESS KINGcQUEENcROOKcBISHOPcKNIGHT
cPAWNbSPADE SUITaWHITE HEART SUITbDIAMOND SUITaBLACK CLUB SUITaWHITE SPADE SUITaBLACK HEART SUIT
bDIAMOND SUITaWHITE CLUB SUITaHOT SPRINGSaQUARTER NOTEaEIGHTH NOTEaBEAMED EIGHTH NOTES
bSIXTEENTH NOTESaMUSIC FLAT SIGNbNATURAL SIGNbSHARP SIGNaWEST SYRIAC CROSSaEAST SYRIAC CROSS
aUNIVERSAL RECYCLING SYMBOLaRECYCLING SYMBOL FOR TYPE-1 PLASTICSdTYPE-2 PLASTICSdTYPE-3 PLASTICS
dTYPE-4 PLASTICSdTYPE-5 PLASTICSdTYPE-6 PLASTICSdTYPE-7 PLASTICSdGENERIC MATERIALS
aBLACK UNIVERSAL RECYCLING SYMBOLaRECYCLED PAPER SYMBOLaPARTIALLY-RECYCLED PAPER SYMBOL
aPERMANENT PAPER SIGNaWHEELCHAIR SYMBOLaDIE FACE-1bFACE-2bFACE-3bFACE-4bFACE-5bFACE-6
aWHITE CIRCLE WITH DOT RIGHTdTWO DOTSaBLACK CIRCLE WITH WHITE DOT RIGHTdTWO WHITE DOTS
aMONOGRAM FOR YANGcYINaDIGRAM FOR GREATER YANGcLESSER YINdYANGcGREATER YINaWHITE FLAGaBLACK FLAG
aHAMMER AND PICKaANCHORaCROSSED SWORDSaSTAFF OF AESCULAPIUSaSCALESaALEMBICaFLOWERaGEAR
aSTAFF OF HERMESaATOM SYMBOLaFLEUR-DE-LISaOUTLINED WHITE STARaTHREE LINES CONVERGING RIGHTdLEFT
aWARNING SIGNaHIGH VOLTAGE SIGNaDOUBLED FEMALE SIGNbMALE SIGNaINTERLOCKED FEMALE AND MALE SIGN
aMALE AND FEMALE SIGNbWITH STROKE SIGNdAND MALE AND FEMALE SIGNaVERTICAL MALE WITH STROKE SIGN
aHORIZONTAL MALE WITH STROKE SIGNaMEDIUM WHITE CIRCLEbBLACK CIRCLEbSMALL WHITE CIRCLE
aMARRIAGE SYMBOLaDIVORCE SYMBOLaUNMARRIED PARTNERSHIP SYMBOLaCOFFINaFUNERAL URNaNEUTERaCERESaPALLAS
aJUNOaVESTAaCHIRONaBLACK MOON LILITHaSEXTILEaSEMISEXTILEaQUINCUNXaSESQUIQUADRATEaSOCCER BALL
aBASEBALLaSQUARED KEYaWHITE DRAUGHTS MANcKINGaBLACK DRAUGHTS MANcKINGaSNOWMAN WITHOUT SNOW
aSUN BEHIND CLOUDaRAINaBLACK SNOWMANaTHUNDER CLOUD AND RAINaTURNED WHITE SHOGI PIECE
bBLACK SHOGI PIECEaWHITE DIAMOND IN SQUAREaCROSSING LANESaDISABLED CARaOPHIUCHUSaPICKaCAR SLIDING
aHELMET WITH WHITE CROSSaCIRCLED CROSSING LANESaCHAINSaNO ENTRYaALTERNATE ONE-WAY LEFT WAY TRAFFIC
aBLACK TWO-WAY LEFT WAY TRAFFICaWHITE TWO-WAY LEFT WAY TRAFFICaBLACK LEFT LANE MERGE
aWHITE LEFT LANE MERGEaDRIVE SLOW SIGNaHEAVY WHITE DOWN-POINTING TRIANGLEaLEFT CLOSED ENTRY
aSQUARED SALTIREaFALLING DIAGONAL IN WHITE CIRCLE IN BLACK SQUAREaBLACK TRUCK
aRESTRICTED LEFT ENTRY-1cENTRY-2aASTRONOMICAL SYMBOL FOR URANUS
aHEAVY CIRCLE WITH STROKE AND TWO DOTS ABOVEaPENTAGRAMaRIGHT-HANDED INTERLACED PENTAGRAM
aLEFT-HANDED INTERLACED PENTAGRAMaINVERTED PENTAGRAMaBLACK CROSS ON SHIELDaSHINTO SHRINEaCHURCH
aCASTLEaHISTORIC SITEaGEAR WITHOUT HUBbWITH HANDLESaMAP SYMBOL FOR LIGHTHOUSEaMOUNTAIN
aUMBRELLA ON GROUNDaFOUNTAINaFLAG IN HOLEaFERRYaSAILBOATaSQUARE FOUR CORNERSaSKIERaICE SKATE
aPERSON WITH BALLaTENTaJAPANESE BANK SYMBOLaHEADSTONE GRAVEYARD SYMBOLaFUEL PUMP
aCUP ON BLACK SQUAREaWHITE FLAG WITH HORIZONTAL MIDDLE BLACK STRIPEaBLACK SAFETY SCISSORS
aUPPER BLADE SCISSORSaBLACK SCISSORSaLOWER BLADE SCISSORSaWHITE SCISSORSbHEAVY CHECK MARK
aTELEPHONE LOCATION SIGNaTAPE DRIVEaAIRPLANEaENVELOPEaRAISED FISTbHANDaVICTORY HANDaWRITING HAND
aLOWER RIGHT PENCILaPENCILaUPPER RIGHT PENCILaWHITE NIBaBLACK NIBaCHECK MARKaHEAVY CHECK MARK
aMULTIPLICATION XaHEAVY MULTIPLICATION XaBALLOT XaHEAVY BALLOT XaOUTLINED GREEK CROSS
aHEAVY GREEK CROSSaOPEN CENTRE CROSSaHEAVY OPEN CENTRE CROSSaLATIN CROSSaSHADOWED WHITE LATIN CROSS
aOUTLINED LATIN CROSSaMALTESE CROSSaSTAR OF DAVIDaFOUR TEARDROP-SPOKED ASTERISK
bBALLOON-SPOKED ASTERISKaHEAVY FOUR BALLOON-SPOKED ASTERISKaFOUR CLUB-SPOKED ASTERISK
aBLACK FOUR POINTED STARaWHITE FOUR POINTED STARaSPARKLESaSTRESS OUTLINED WHITE STAR
aCIRCLED WHITE STARaOPEN CENTRE BLACK STARaBLACK CENTRE WHITE STARaOUTLINED BLACK STAR
aHEAVY OUTLINED BLACK STARaPINWHEEL STARaSHADOWED WHITE STARaHEAVY ASTERISKaOPEN CENTRE ASTERISK
aEIGHT SPOKED ASTERISKbPOINTED BLACK STARcPINWHEEL STARaSIX POINTED BLACK STAR
aEIGHT POINTED RECTILINEAR BLACK STARaHEAVY EIGHT POINTED RECTILINEAR BLACK STAR
aTWELVE POINTED BLACK STARaSIXTEEN POINTED ASTERISKaTEARDROP-SPOKED ASTERISK
aOPEN CENTRE TEARDROP-SPOKED ASTERISKaHEAVY TEARDROP-SPOKED ASTERISK
aSIX PETALLED BLACK AND WHITE FLORETTEaBLACK FLORETTEaWHITE FLORETTE
aEIGHT PETALLED OUTLINED BLACK FLORETTEaCIRCLED OPEN CENTRE EIGHT POINTED STAR
aHEAVY TEARDROP-SPOKED PINWHEEL ASTERISKaSNOWFLAKEaTIGHT TRIFOLIATE SNOWFLAKE
aHEAVY CHEVRON SNOWFLAKEaSPARKLEaHEAVY SPARKLEaBALLOON-SPOKED ASTERISK
aEIGHT TEARDROP-SPOKED PROPELLER ASTERISKaHEAVY EIGHT TEARDROP-SPOKED PROPELLER ASTERISKaCROSS MARK
aSHADOWED WHITE CIRCLEaNEGATIVE SQUARED CROSS MARKaLOWER RIGHT DROP-SHADOWED WHITE SQUARE
aUPPER RIGHT DROP-SHADOWED WHITE SQUAREaLOWER RIGHT SHADOWED WHITE SQUARE
aUPPER RIGHT SHADOWED WHITE SQUAREaBLACK QUESTION MARK ORNAMENTaWHITE QUESTION MARK ORNAMENT
bEXCLAMATION MARK ORNAMENTaBLACK DIAMOND MINUS WHITE XaHEAVY EXCLAMATION MARK SYMBOL
aLIGHT VERTICAL BARaMEDIUM VERTICAL BARaHEAVY VERTICAL BAR
bSINGLE TURNED COMMA QUOTATION MARK ORNAMENTcCOMMA QUOTATION MARK ORNAMENT
bDOUBLE TURNED COMMA QUOTATION MARK ORNAMENTcCOMMA QUOTATION MARK ORNAMENT
bLOW SINGLE COMMA QUOTATION MARK ORNAMENTcDOUBLE COMMA QUOTATION MARK ORNAMENT
aCURVED STEM PARAGRAPH SIGN ORNAMENTaHEAVY EXCLAMATION MARK ORNAMENT
bHEART EXCLAMATION MARK ORNAMENTbBLACK HEARTaROTATED HEAVY BLACK HEART BULLETaFLORAL HEART
aROTATED FLORAL HEART BULLETaMEDIUM LEFT PARENTHESIS ORNAMENTbRIGHT PARENTHESIS ORNAMENT
bFLATTENED LEFT PARENTHESIS ORNAMENTcRIGHT PARENTHESIS ORNAMENT
bLEFT-POINTING ANGLE BRACKET ORNAMENTbRIGHT-POINTING ANGLE BRACKET ORNAMENT
aHEAVY LEFT-POINTING ANGLE QUOTATION MARK ORNAMENTbRIGHT-POINTING ANGLE QUOTATION MARK ORNAMENT
bLEFT-POINTING ANGLE BRACKET ORNAMENTbRIGHT-POINTING ANGLE BRACKET ORNAMENT
aLIGHT LEFT TORTOISE SHELL BRACKET ORNAMENTbRIGHT TORTOISE SHELL BRACKET ORNAMENT
aMEDIUM LEFT CURLY BRACKET ORNAMENTbRIGHT CURLY BRACKET ORNAMENTaDINGBAT NEGATIVE CIRCLED DIGIT ONE
eTWOeTHREEeFOUReFIVEeSIXeSEVENeEIGHTeNINEdNUMBER TENbCIRCLED SANS-SERIF DIGIT ONEeTWOeTHREEeFOUR
eFIVEeSIXeSEVENeEIGHTeNINEdNUMBER TENbNEGATIVE CIRCLED SANS-SERIF DIGIT ONEfTWOfTHREEfFOURfFIVEfSIX
fSEVENfEIGHTfNINEeNUMBER TENaHEAVY WIDE-HEADED RIGHTWARDS ARROWbPLUS SIGNbMINUS SIGNbDIVISION SIGN
bSOUTH EAST ARROWbRIGHTWARDS ARROWbNORTH EAST ARROWaDRAFTING POINT RIGHTWARDS ARROW
aHEAVY ROUND-TIPPED RIGHTWARDS ARROWaTRIANGLE-HEADED RIGHTWARDS ARROW
aHEAVY TRIANGLE-HEADED RIGHTWARDS ARROWaDASHED TRIANGLE-HEADED RIGHTWARDS ARROW
aHEAVY DASHED TRIANGLE-HEADED RIGHTWARDS ARROWaBLACK RIGHTWARDS ARROW
aTHREE-D TOP-LIGHTED RIGHTWARDS ARROWHEADbBOTTOM-LIGHTED RIGHTWARDS ARROWHEAD
aBLACK RIGHTWARDS ARROWHEADaHEAVY BLACK CURVED DOWNWARDS AND RIGHTWARDS ARROW
dUPWARDS AND RIGHTWARDS ARROWaSQUAT BLACK RIGHTWARDS ARROW
aHEAVY CONCAVE-POINTED BLACK RIGHTWARDS ARROWaRIGHT-SHADED WHITE RIGHTWARDS ARROW
aLEFT-SHADED WHITE RIGHTWARDS ARROWaBACK-TILTED SHADOWED WHITE RIGHTWARDS ARROW
aFRONT-TILTED SHADOWED WHITE RIGHTWARDS ARROWaHEAVY LOWER RIGHT-SHADOWED WHITE RIGHTWARDS ARROW
bUPPER RIGHT-SHADOWED WHITE RIGHTWARDS ARROWaNOTCHED LOWER RIGHT-SHADOWED WHITE RIGHTWARDS ARROW
aCURLY LOOPaNOTCHED UPPER RIGHT-SHADOWED WHITE RIGHTWARDS ARROW
aCIRCLED HEAVY WHITE RIGHTWARDS ARROWaWHITE-FEATHERED RIGHTWARDS ARROW
aBLACK-FEATHERED SOUTH EAST ARROWbRIGHTWARDS ARROWbNORTH EAST ARROW
aHEAVY BLACK-FEATHERED SOUTH EAST ARROWcRIGHTWARDS ARROWcNORTH EAST ARROW
aTEARDROP-BARBED RIGHTWARDS ARROWaHEAVY TEARDROP-SHANKED RIGHTWARDS ARROW
aWEDGE-TAILED RIGHTWARDS ARROWaHEAVY WEDGE-TAILED RIGHTWARDS ARROWaOPEN-OUTLINED RIGHTWARDS ARROW
aDOUBLE CURLY LOOPaTHREE DIMENSIONAL ANGLEaWHITE TRIANGLE CONTAINING SMALL WHITE TRIANGLE
aPERPENDICULARaOPEN SUBSETbSUPERSETaLEFT S-SHAPED BAG DELIMITERaRIGHT S-SHAPED BAG DELIMITER
aOR WITH DOT INSIDEaREVERSE SOLIDUS PRECEDING SUBSETaSUPERSET PRECEDING SOLIDUS
aVERTICAL BAR WITH HORIZONTAL STROKEaMATHEMATICAL RISING DIAGONALaLONG DIVISION
aMATHEMATICAL FALLING DIAGONALaSQUARED LOGICAL ANDcORaWHITE DIAMOND WITH CENTRED DOTaAND WITH DOT
aELEMENT OF OPENING UPWARDSaLOWER RIGHT CORNER WITH DOTaUPPER LEFT CORNER WITH DOTaLEFT OUTER JOIN
aRIGHT OUTER JOINaFULL OUTER JOINaLARGE UP TACKbDOWN TACKaLEFT AND RIGHT DOUBLE TURNSTILEdTACK
bMULTIMAPaLONG RIGHT TACKbLEFT TACKaUP TACK WITH CIRCLE ABOVEaLOZENGE DIVIDED BY HORIZONTAL RULE
aWHITE CONCAVE-SIDED DIAMONDdWITH LEFTWARDS TICKeRIGHTWARDS TICKbSQUARE WITH LEFTWARDS TICK
dRIGHTWARDS TICKaMATHEMATICAL LEFT WHITE SQUARE BRACKETbRIGHT WHITE SQUARE BRACKET
bLEFT ANGLE BRACKETbRIGHT ANGLE BRACKETbLEFT DOUBLE ANGLE BRACKETbRIGHT DOUBLE ANGLE BRACKET
bLEFT WHITE TORTOISE SHELL BRACKETbRIGHT WHITE TORTOISE SHELL BRACKETbLEFT FLATTENED PARENTHESIS
bRIGHT FLATTENED PARENTHESISaUPWARDS QUADRUPLE ARROWaDOWNWARDS QUADRUPLE ARROW
aANTICLOCKWISE GAPPED CIRCLE ARROWaCLOCKWISE GAPPED CIRCLE ARROWaRIGHT ARROW WITH CIRCLED PLUS
aLONG LEFTWARDS ARROWbRIGHTWARDS ARROWbLEFT RIGHT ARROWbLEFTWARDS DOUBLE ARROW
bRIGHTWARDS DOUBLE ARROWbLEFT RIGHT DOUBLE ARROWbLEFTWARDS ARROW FROM BARbRIGHTWARDS ARROW FROM BAR
bLEFTWARDS DOUBLE ARROW FROM BARbRIGHTWARDS DOUBLE ARROW FROM BARcSQUIGGLE ARROW
aBRAILLE PATTERN BLANKcDOTS-1cDOTS-2cDOTS-12cDOTS-3cDOTS-13cDOTS-23cDOTS-123cDOTS-4cDOTS-14cDOTS-24
cDOTS-124cDOTS-34cDOTS-134cDOTS-234cDOTS-1234cDOTS-5cDOTS-15cDOTS-25cDOTS-125cDOTS-35cDOTS-135
cDOTS-235cDOTS-1235cDOTS-45cDOTS-145cDOTS-245cDOTS-1245cDOTS-345cDOTS-1345cDOTS-2345cDOTS-12345
cDOTS-6cDOTS-16cDOTS-26cDOTS-126cDOTS-36cDOTS-136cDOTS-236cDOTS-1236cDOTS-46cDOTS-146cDOTS-246
cDOTS-1246cDOTS-346cDOTS-1346cDOTS-2346cDOTS-12346cDOTS-56cDOTS-156cDOTS-256cDOTS-1256cDOTS-356
cDOTS-1356cDOTS-2356cDOTS-12356cDOTS-456cDOTS-1456cDOTS-2456cDOTS-12456cDOTS-3456cDOTS-13456
cDOTS-23456cDOTS-123456cDOTS-7cDOTS-17cDOTS-27cDOTS-127cDOTS-37cDOTS-137cDOTS-237cDOTS-1237cDOTS-47
cDOTS-147cDOTS-247cDOTS-1247cDOTS-347cDOTS-1347cDOTS-2347cDOTS-12347cDOTS-57cDOTS-157cDOTS-257
cDOTS-1257cDOTS-357cDOTS-1357cDOTS-2357cDOTS-12357cDOTS-457cDOTS-1457cDOTS-2457cDOTS-12457
cDOTS-3457cDOTS-13457cDOTS-23457cDOTS-123457cDOTS-67cDOTS-167cDOTS-267cDOTS-1267cDOTS-367cDOTS-1367
cDOTS-2367cDOTS-12367cDOTS-467cDOTS-1467cDOTS-2467cDOTS-12467cDOTS-3467cDOTS-13467cDOTS-23467
cDOTS-123467cDOTS-567cDOTS-1567cDOTS-2567cDOTS-12567cDOTS-3567cDOTS-13567cDOTS-23567cDOTS-123567
cDOTS-4567cDOTS-14567cDOTS-24567cDOTS-124567cDOTS-34567cDOTS-134567cDOTS-234567cDOTS-1234567cDOTS-8
cDOTS-18cDOTS-28cDOTS-128cDOTS-38cDOTS-138cDOTS-238cDOTS-1238cDOTS-48cDOTS-148cDOTS-248cDOTS-1248
cDOTS-348cDOTS-1348cDOTS-2348cDOTS-12348cDOTS-58cDOTS-158cDOTS-258cDOTS-1258cDOTS-358cDOTS-1358
cDOTS-2358cDOTS-12358cDOTS-458cDOTS-1458cDOTS-2458cDOTS-12458cDOTS-3458cDOTS-13458cDOTS-23458
cDOTS-123458cDOTS-68cDOTS-168cDOTS-268cDOTS-1268cDOTS-368cDOTS-1368cDOTS-2368cDOTS-12368cDOTS-468
cDOTS-1468cDOTS-2468cDOTS-12468cDOTS-3468cDOTS-13468cDOTS-23468cDOTS-123468cDOTS-568cDOTS-1568
cDOTS-2568cDOTS-12568cDOTS-3568cDOTS-13568cDOTS-23568cDOTS-123568cDOTS-4568cDOTS-14568cDOTS-24568
cDOTS-124568cDOTS-34568cDOTS-134568cDOTS-234568cDOTS-1234568cDOTS-78cDOTS-178cDOTS-278cDOTS-1278
cDOTS-378cDOTS-1378cDOTS-2378cDOTS-12378cDOTS-478cDOTS-1478cDOTS-2478cDOTS-12478cDOTS-3478
cDOTS-13478cDOTS-23478cDOTS-123478cDOTS-578cDOTS-1578cDOTS-2578cDOTS-12578cDOTS-3578cDOTS-13578
cDOTS-23578cDOTS-123578cDOTS-4578cDOTS-14578cDOTS-24578cDOTS-124578cDOTS-34578cDOTS-134578
cDOTS-234578cDOTS-1234578cDOTS-678cDOTS-1678cDOTS-2678cDOTS-12678cDOTS-3678cDOTS-13678cDOTS-23678
cDOTS-123678cDOTS-4678cDOTS-14678cDOTS-24678cDOTS-124678cDOTS-34678cDOTS-134678cDOTS-234678
cDOTS-1234678cDOTS-5678cDOTS-15678cDOTS-25678cDOTS-125678cDOTS-35678cDOTS-135678cDOTS-235678
cDOTS-1235678cDOTS-45678cDOTS-145678cDOTS-245678cDOTS-1245678cDOTS-345678cDOTS-1345678cDOTS-2345678
cDOTS-12345678aRIGHTWARDS TWO-HEADED ARROW WITH VERTICAL STROKEeDOUBLE VERTICAL STROKE
aLEFTWARDS DOUBLE ARROW WITH VERTICAL STROKEaRIGHTWARDS DOUBLE ARROW WITH VERTICAL STROKE
aLEFT RIGHT DOUBLE ARROW WITH VERTICAL STROKEaRIGHTWARDS TWO-HEADED ARROW FROM BAR
aLEFTWARDS DOUBLE ARROW FROM BARaRIGHTWARDS DOUBLE ARROW FROM BAR
aDOWNWARDS ARROW WITH HORIZONTAL STROKEaUPWARDS ARROW WITH HORIZONTAL STROKEbTRIPLE ARROW
aDOWNWARDS TRIPLE ARROWaLEFTWARDS DOUBLE DASH ARROWaRIGHTWARDS DOUBLE DASH ARROW
aLEFTWARDS TRIPLE DASH ARROWaRIGHTWARDS TRIPLE DASH ARROWbTWO-HEADED TRIPLE DASH ARROW
bARROW WITH DOTTED STEMaUPWARDS ARROW TO BARaDOWNWARDS ARROW TO BAR
aRIGHTWARDS ARROW WITH TAIL WITH VERTICAL STROKEfDOUBLE VERTICAL STROKEbTWO-HEADED ARROW WITH TAIL
fWITH VERTICAL STROKEgDOUBLE VERTICAL STROKEaLEFTWARDS ARROW-TAILaRIGHTWARDS ARROW-TAIL
aLEFTWARDS DOUBLE ARROW-TAILaRIGHTWARDS DOUBLE ARROW-TAILaLEFTWARDS ARROW TO BLACK DIAMOND
aRIGHTWARDS ARROW TO BLACK DIAMONDaLEFTWARDS ARROW FROM BAR TO BLACK DIAMOND
aRIGHTWARDS ARROW FROM BAR TO BLACK DIAMONDaNORTH WEST AND SOUTH EAST ARROW
bEAST AND SOUTH WEST ARROWbWEST ARROW WITH HOOKbEAST ARROW WITH HOOKaSOUTH EAST ARROW WITH HOOK
bWEST ARROW WITH HOOKaNORTH WEST ARROW AND NORTH EAST ARROWbEAST ARROW AND SOUTH EAST ARROW
aSOUTH EAST ARROW AND SOUTH WEST ARROWbWEST ARROW AND NORTH WEST ARROW
aRISING DIAGONAL CROSSING FALLING DIAGONALaFALLING DIAGONAL CROSSING RISING DIAGONAL
aSOUTH EAST ARROW CROSSING NORTH EAST ARROWaNORTH EAST ARROW CROSSING SOUTH EAST ARROW
aFALLING DIAGONAL CROSSING NORTH EAST ARROWaRISING DIAGONAL CROSSING SOUTH EAST ARROW
aNORTH EAST ARROW CROSSING NORTH WEST ARROWbWEST ARROW CROSSING NORTH EAST ARROW
aWAVE ARROW POINTING DIRECTLY RIGHTaARROW POINTING RIGHTWARDS THEN CURVING UPWARDSfDOWNWARDS
cDOWNWARDS THEN CURVING LEFTWARDSfRIGHTWARDSaRIGHT-SIDE ARC CLOCKWISE ARROW
aLEFT-SIDE ARC ANTICLOCKWISE ARROWaTOP ARC ANTICLOCKWISE ARROWaBOTTOM ARC ANTICLOCKWISE ARROW
aTOP ARC CLOCKWISE ARROW WITH MINUScANTICLOCKWISE ARROW WITH PLUS
aLOWER RIGHT SEMICIRCULAR CLOCKWISE ARROWbLEFT SEMICIRCULAR ANTICLOCKWISE ARROW
aANTICLOCKWISE CLOSED CIRCLE ARROWaCLOCKWISE CLOSED CIRCLE ARROW
aRIGHTWARDS ARROW ABOVE SHORT LEFTWARDS ARROWaLEFTWARDS ARROW ABOVE SHORT RIGHTWARDS ARROW
aSHORT RIGHTWARDS ARROW ABOVE LEFTWARDS ARROWaRIGHTWARDS ARROW WITH PLUS BELOW
aLEFTWARDS ARROW WITH PLUS BELOWaRIGHTWARDS ARROW THROUGH XaLEFT RIGHT ARROW THROUGH SMALL CIRCLE
aUPWARDS TWO-HEADED ARROW FROM SMALL CIRCLEaLEFT BARB UP RIGHT BARB DOWN HARPOON
cDOWN RIGHT BARB UP HARPOONaUP BARB RIGHT DOWN BARB LEFT HARPOONcLEFT DOWN BARB RIGHT HARPOON
aLEFT BARB UP RIGHT BARB UP HARPOONaUP BARB RIGHT DOWN BARB RIGHT HARPOON
aLEFT BARB DOWN RIGHT BARB DOWN HARPOONaUP BARB LEFT DOWN BARB LEFT HARPOON
aLEFTWARDS HARPOON WITH BARB UP TO BARaRIGHTWARDS HARPOON WITH BARB UP TO BAR
aUPWARDS HARPOON WITH BARB RIGHT TO BARaDOWNWARDS HARPOON WITH BARB RIGHT TO BAR
aLEFTWARDS HARPOON WITH BARB DOWN TO BARaRIGHTWARDS HARPOON WITH BARB DOWN TO BAR
aUPWARDS HARPOON WITH BARB LEFT TO BARaDOWNWARDS HARPOON WITH BARB LEFT TO BAR
aLEFTWARDS HARPOON WITH BARB UP FROM BARaRIGHTWARDS HARPOON WITH BARB UP FROM BAR
aUPWARDS HARPOON WITH BARB RIGHT FROM BARaDOWNWARDS HARPOON WITH BARB RIGHT FROM BAR
aLEFTWARDS HARPOON WITH BARB DOWN FROM BARaRIGHTWARDS HARPOON WITH BARB DOWN FROM BAR
aUPWARDS HARPOON WITH BARB LEFT FROM BARaDOWNWARDS HARPOON WITH BARB LEFT FROM BAR
aLEFTWARDS HARPOON WITH BARB UP ABOVE LEFTWARDS HARPOON WITH BARB DOWN
aUPWARDS HARPOON WITH BARB LEFT BESIDE UPWARDS HARPOON WITH BARB RIGHT
aRIGHTWARDS HARPOON WITH BARB UP ABOVE RIGHTWARDS HARPOON WITH BARB DOWN
aDOWNWARDS HARPOON WITH BARB LEFT BESIDE DOWNWARDS HARPOON WITH BARB RIGHT
aLEFTWARDS HARPOON WITH BARB UP ABOVE RIGHTWARDS HARPOON WITH BARB UP
eDOWN ABOVE RIGHTWARDS HARPOON WITH BARB DOWN
aRIGHTWARDS HARPOON WITH BARB UP ABOVE LEFTWARDS HARPOON WITH BARB UP
eDOWN ABOVE LEFTWARDS HARPOON WITH BARB DOWNaLEFTWARDS HARPOON WITH BARB UP ABOVE LONG DASH
eDOWN BELOW LONG DASHaRIGHTWARDS HARPOON WITH BARB UP ABOVE LONG DASHeDOWN BELOW LONG DASH
aUPWARDS HARPOON WITH BARB LEFT BESIDE DOWNWARDS HARPOON WITH BARB RIGHT
aDOWNWARDS HARPOON WITH BARB LEFT BESIDE UPWARDS HARPOON WITH BARB RIGHT
aRIGHT DOUBLE ARROW WITH ROUNDED HEADaEQUALS SIGN ABOVE RIGHTWARDS ARROW
aTILDE OPERATOR ABOVE RIGHTWARDS ARROWaLEFTWARDS ARROW ABOVE TILDE OPERATOR
aRIGHTWARDS ARROW ABOVE TILDE OPERATORdALMOST EQUAL TOaLESS-THAN ABOVE LEFTWARDS ARROW
aLEFTWARDS ARROW THROUGH LESS-THANaGREATER-THAN ABOVE RIGHTWARDS ARROW
aSUBSET ABOVE RIGHTWARDS ARROWaLEFTWARDS ARROW THROUGH SUBSETaSUPERSET ABOVE LEFTWARDS ARROW
aLEFT FISH TAILaRIGHT FISH TAILaUP FISH TAILaDOWN FISH TAILaTRIPLE VERTICAL BAR DELIMITER
aZ NOTATION SPOTcTYPE COLONaLEFT WHITE CURLY BRACKETaRIGHT WHITE CURLY BRACKET
aLEFT WHITE PARENTHESISaRIGHT WHITE PARENTHESISaZ NOTATION LEFT IMAGE BRACKETcRIGHT IMAGE BRACKET
cLEFT BINDING BRACKETcRIGHT BINDING BRACKETaLEFT SQUARE BRACKET WITH UNDERBAR
aRIGHT SQUARE BRACKET WITH UNDERBARaLEFT SQUARE BRACKET WITH TICK IN TOP CORNER
aRIGHT SQUARE BRACKET WITH TICK IN BOTTOM CORNERaLEFT SQUARE BRACKET WITH TICK IN BOTTOM CORNER
aRIGHT SQUARE BRACKET WITH TICK IN TOP CORNERaLEFT ANGLE BRACKET WITH DOT
aRIGHT ANGLE BRACKET WITH DOTaLEFT ARC LESS-THAN BRACKETaRIGHT ARC GREATER-THAN BRACKET
aDOUBLE LEFT ARC GREATER-THAN BRACKETbRIGHT ARC LESS-THAN BRACKETaLEFT BLACK TORTOISE SHELL BRACKET
aRIGHT BLACK TORTOISE SHELL BRACKETaDOTTED FENCEaVERTICAL ZIGZAG LINEaMEASURED ANGLE OPENING LEFT
aRIGHT ANGLE VARIANT WITH SQUAREaMEASURED RIGHT ANGLE WITH DOTaANGLE WITH S INSIDEaACUTE ANGLE
aSPHERICAL ANGLE OPENING LEFTdUPaTURNED ANGLEaREVERSED ANGLEaANGLE WITH UNDERBAR
aREVERSED ANGLE WITH UNDERBARaOBLIQUE ANGLE OPENING UPdDOWN
aMEASURED ANGLE WITH OPEN ARM ENDING IN ARROW POINTING UP AND RIGHTlLEFTjDOWN AND RIGHTlLEFT
jRIGHT AND UPjLEFT AND UPjRIGHT AND DOWNjLEFT AND DOWNaREVERSED EMPTY SETaEMPTY SET WITH OVERBAR
dSMALL CIRCLE ABOVEdRIGHT ARROW ABOVEdLEFT ARROW ABOVEaCIRCLE WITH HORIZONTAL BAR
aCIRCLED VERTICAL BARbPARALLELbREVERSE SOLIDUSbPERPENDICULAR
aCIRCLE DIVIDED BY HORIZONTAL BAR AND TOP HALF DIVIDED BY VERTICAL BARbWITH SUPERIMPOSED X
aCIRCLED ANTICLOCKWISE-ROTATED DIVISION SIGNaUP ARROW THROUGH CIRCLEaCIRCLED WHITE BULLETbBULLET
bLESS-THANbGREATER-THANaCIRCLE WITH SMALL CIRCLE TO THE RIGHTcTWO HORIZONTAL STROKES TO THE RIGHT
aSQUARED RISING DIAGONAL SLASHbFALLING DIAGONAL SLASHbASTERISKbSMALL CIRCLEbSQUARE
aTWO JOINED SQUARESaTRIANGLE WITH DOT ABOVEcUNDERBARaS IN TRIANGLEaTRIANGLE WITH SERIFS AT BOTTOM
aRIGHT TRIANGLE ABOVE LEFT TRIANGLEaLEFT TRIANGLE BESIDE VERTICAL BAR
aVERTICAL BAR BESIDE RIGHT TRIANGLEaBOWTIE WITH LEFT HALF BLACKcRIGHT HALF BLACKaBLACK BOWTIE
aTIMES WITH LEFT HALF BLACKcRIGHT HALF BLACKaWHITE HOURGLASSaBLACK HOURGLASSaLEFT WIGGLY FENCE
aRIGHT WIGGLY FENCEaLEFT DOUBLE WIGGLY FENCEaRIGHT DOUBLE WIGGLY FENCEaINCOMPLETE INFINITY
aTIE OVER INFINITYaINFINITY NEGATED WITH VERTICAL BARaDOUBLE-ENDED MULTIMAP
aSQUARE WITH CONTOURED OUTLINEaINCREASES ASaSHUFFLE PRODUCTaEQUALS SIGN AND SLANTED PARALLEL
fWITH TILDE ABOVEaIDENTICAL TO AND SLANTED PARALLELaGLEICH STARKaTHERMODYNAMIC
aDOWN-POINTING TRIANGLE WITH LEFT HALF BLACKdRIGHT HALF BLACKaBLACK DIAMOND WITH DOWN ARROWbLOZENGE
aWHITE CIRCLE WITH DOWN ARROWaBLACK CIRCLE WITH DOWN ARROWaERROR-BARRED WHITE SQUAREbBLACK SQUARE
bWHITE DIAMONDbBLACK DIAMONDbWHITE CIRCLEbBLACK CIRCLEaRULE-DELAYEDaREVERSE SOLIDUS OPERATOR
aSOLIDUS WITH OVERBARaREVERSE SOLIDUS WITH HORIZONTAL STROKEaBIG SOLIDUSbREVERSE SOLIDUS
aDOUBLE PLUSaTRIPLE PLUSaLEFT-POINTING CURVED ANGLE BRACKETaRIGHT-POINTING CURVED ANGLE BRACKET
aTINYaMINYaN-ARY CIRCLED DOT OPERATORcPLUS OPERATORcTIMES OPERATORbUNION OPERATOR WITH DOTePLUS
bSQUARE INTERSECTION OPERATORcUNION OPERATORaTWO LOGICAL AND OPERATORcOR OPERATOR
aN-ARY TIMES OPERATORaMODULO TWO SUMaSUMMATION WITH INTEGRALaQUADRUPLE INTEGRAL OPERATOR
aFINITE PART INTEGRALaINTEGRAL WITH DOUBLE STROKEbAVERAGE WITH SLASHaCIRCULATION FUNCTION
aANTICLOCKWISE INTEGRATIONaLINE INTEGRATION WITH RECTANGULAR PATH AROUND POLE
dSEMICIRCULAR PATH AROUND POLEcNOT INCLUDING THE POLEaINTEGRAL AROUND A POINT OPERATOR
aQUATERNION INTEGRAL OPERATORaINTEGRAL WITH LEFTWARDS ARROW WITH HOOKcTIMES SIGNcINTERSECTIONcUNION
cOVERBARcUNDERBARaJOINaLARGE LEFT TRIANGLE OPERATORaZ NOTATION SCHEMA COMPOSITIONdPIPINGdPROJECTION
aPLUS SIGN WITH SMALL CIRCLE ABOVEdCIRCUMFLEX ACCENT ABOVEdTILDE ABOVEdDOT BELOWdTILDE BELOW
dSUBSCRIPT TWOdBLACK TRIANGLEaMINUS SIGN WITH COMMA ABOVEdDOT BELOWdFALLING DOTSdRISING DOTS
aPLUS SIGN IN LEFT HALF CIRCLEdRIGHT HALF CIRCLEaVECTOR OR CROSS PRODUCT
aMULTIPLICATION SIGN WITH DOT ABOVEdUNDERBARaSEMIDIRECT PRODUCT WITH BOTTOM CLOSEDaSMASH PRODUCT
aMULTIPLICATION SIGN IN LEFT HALF CIRCLEdRIGHT HALF CIRCLE
aCIRCLED MULTIPLICATION SIGN WITH CIRCUMFLEX ACCENTaMULTIPLICATION SIGN IN DOUBLE CIRCLE
aCIRCLED DIVISION SIGNaPLUS SIGN IN TRIANGLEaMINUS SIGN IN TRIANGLEaMULTIPLICATION SIGN IN TRIANGLE
aINTERIOR PRODUCTaRIGHTHAND INTERIOR PRODUCTaZ NOTATION RELATIONAL COMPOSITION
aAMALGAMATION OR COPRODUCTaINTERSECTION WITH DOTaUNION WITH MINUS SIGNcOVERBAR
aINTERSECTION WITH OVERBARcLOGICAL ANDaUNION WITH LOGICAL ORbABOVE INTERSECTION
aINTERSECTION ABOVE UNIONaUNION ABOVE BAR ABOVE INTERSECTIONaINTERSECTION ABOVE BAR ABOVE UNION
aUNION BESIDE AND JOINED WITH UNIONaINTERSECTION BESIDE AND JOINED WITH INTERSECTION
aCLOSED UNION WITH SERIFSbINTERSECTION WITH SERIFSaDOUBLE SQUARE INTERSECTIONcUNION
aCLOSED UNION WITH SERIFS AND SMASH PRODUCTaLOGICAL AND WITH DOT ABOVEbOR WITH DOT ABOVE
aDOUBLE LOGICAL ANDcORaTWO INTERSECTING LOGICAL ANDdORaSLOPING LARGE ORcAND
aLOGICAL OR OVERLAPPING LOGICAL ANDbAND WITH MIDDLE STEMbOR WITH MIDDLE STEM
bAND WITH HORIZONTAL DASHbOR WITH HORIZONTAL DASHbAND WITH DOUBLE OVERBARdUNDERBARdDOUBLE UNDERBAR
aSMALL VEE WITH UNDERBARaLOGICAL OR WITH DOUBLE OVERBAReUNDERBARaZ NOTATION DOMAIN ANTIRESTRICTION
cRANGE ANTIRESTRICTIONaEQUALS SIGN WITH DOT BELOWaIDENTICAL WITH DOT ABOVE
aTRIPLE HORIZONTAL BAR WITH DOUBLE VERTICAL STROKEeTRIPLE VERTICAL STROKE
aTILDE OPERATOR WITH DOT ABOVEdRISING DOTSaSIMILAR MINUS SIMILARaCONGRUENT WITH DOT ABOVE
aEQUALS WITH ASTERISKaALMOST EQUAL TO WITH CIRCUMFLEX ACCENTaAPPROXIMATELY EQUAL OR EQUAL TO
aEQUALS SIGN ABOVE PLUS SIGNaPLUS SIGN ABOVE EQUALS SIGNaEQUALS SIGN ABOVE TILDE OPERATOR
aDOUBLE COLON EQUALaTWO CONSECUTIVE EQUALS SIGNSaTHREE CONSECUTIVE EQUALS SIGNS
aEQUALS SIGN WITH TWO DOTS ABOVE AND TWO DOTS BELOWaEQUIVALENT WITH FOUR DOTS ABOVE
aLESS-THAN WITH CIRCLE INSIDEaGREATER-THAN WITH CIRCLE INSIDEaLESS-THAN WITH QUESTION MARK ABOVE
aGREATER-THAN WITH QUESTION MARK ABOVEaLESS-THAN OR SLANTED EQUAL TO
aGREATER-THAN OR SLANTED EQUAL TOaLESS-THAN OR SLANTED EQUAL TO WITH DOT INSIDE
aGREATER-THAN OR SLANTED EQUAL TO WITH DOT INSIDEaLESS-THAN OR SLANTED EQUAL TO WITH DOT ABOVE
aGREATER-THAN OR SLANTED EQUAL TO WITH DOT ABOVEaLESS-THAN OR SLANTED EQUAL TO WITH DOT ABOVE RIGHT
aGREATER-THAN OR SLANTED EQUAL TO WITH DOT ABOVE LEFTaLESS-THAN OR APPROXIMATE
aGREATER-THAN OR APPROXIMATEaLESS-THAN AND SINGLE-LINE NOT EQUAL TO
aGREATER-THAN AND SINGLE-LINE NOT EQUAL TOaLESS-THAN AND NOT APPROXIMATE
aGREATER-THAN AND NOT APPROXIMATEaLESS-THAN ABOVE DOUBLE-LINE EQUAL ABOVE GREATER-THAN
aGREATER-THAN ABOVE DOUBLE-LINE EQUAL ABOVE LESS-THANaLESS-THAN ABOVE SIMILAR OR EQUAL
aGREATER-THAN ABOVE SIMILAR OR EQUALaLESS-THAN ABOVE SIMILAR ABOVE GREATER-THAN
aGREATER-THAN ABOVE SIMILAR ABOVE LESS-THANaLESS-THAN ABOVE GREATER-THAN ABOVE DOUBLE-LINE EQUAL
aGREATER-THAN ABOVE LESS-THAN ABOVE DOUBLE-LINE EQUAL
aLESS-THAN ABOVE SLANTED EQUAL ABOVE GREATER-THAN ABOVE SLANTED EQUAL
aGREATER-THAN ABOVE SLANTED EQUAL ABOVE LESS-THAN ABOVE SLANTED EQUALaSLANTED EQUAL TO OR LESS-THAN
eGREATER-THANeLESS-THAN WITH DOT INSIDEeGREATER-THAN WITH DOT INSIDE
aDOUBLE-LINE EQUAL TO OR LESS-THANeGREATER-THANbSLANTED EQUAL TO OR LESS-THANfGREATER-THAN
aSIMILAR OR LESS-THANcGREATER-THANbABOVE LESS-THAN ABOVE EQUALS SIGNcGREATER-THAN ABOVE EQUALS SIGN
aDOUBLE NESTED LESS-THANcGREATER-THANcLESS-THAN WITH UNDERBARaGREATER-THAN OVERLAPPING LESS-THAN
bBESIDE LESS-THANaLESS-THAN CLOSED BY CURVEaGREATER-THAN CLOSED BY CURVE
aLESS-THAN CLOSED BY CURVE ABOVE SLANTED EQUALaGREATER-THAN CLOSED BY CURVE ABOVE SLANTED EQUAL
aSMALLER THANaLARGER THANaSMALLER THAN OR EQUAL TOaLARGER THAN OR EQUAL TO
aEQUALS SIGN WITH BUMPY ABOVEaPRECEDES ABOVE SINGLE-LINE EQUALS SIGN
aSUCCEEDS ABOVE SINGLE-LINE EQUALS SIGNaPRECEDES ABOVE SINGLE-LINE NOT EQUAL TO
aSUCCEEDS ABOVE SINGLE-LINE NOT EQUAL TOaPRECEDES ABOVE EQUALS SIGNaSUCCEEDS ABOVE EQUALS SIGN
aPRECEDES ABOVE NOT EQUAL TOaSUCCEEDS ABOVE NOT EQUAL TOaPRECEDES ABOVE ALMOST EQUAL TO
aSUCCEEDS ABOVE ALMOST EQUAL TOaPRECEDES ABOVE NOT ALMOST EQUAL TO
aSUCCEEDS ABOVE NOT ALMOST EQUAL TOaDOUBLE PRECEDESbSUCCEEDSaSUBSET WITH DOTaSUPERSET WITH DOT
aSUBSET WITH PLUS SIGN BELOWaSUPERSET WITH PLUS SIGN BELOWaSUBSET WITH MULTIPLICATION SIGN BELOW
aSUPERSET WITH MULTIPLICATION SIGN BELOWaSUBSET OF OR EQUAL TO WITH DOT ABOVE
aSUPERSET OF OR EQUAL TO WITH DOT ABOVEaSUBSET OF ABOVE EQUALS SIGNaSUPERSET OF ABOVE EQUALS SIGN
aSUBSET OF ABOVE TILDE OPERATORaSUPERSET OF ABOVE TILDE OPERATORaSUBSET OF ABOVE ALMOST EQUAL TO
aSUPERSET OF ABOVE ALMOST EQUAL TOaSUBSET OF ABOVE NOT EQUAL TOaSUPERSET OF ABOVE NOT EQUAL TO
aSQUARE LEFT OPEN BOX OPERATORbRIGHT OPEN BOX OPERATORaCLOSED SUBSETbSUPERSETbSUBSET OR EQUAL TO
bSUPERSET OR EQUAL TOaSUBSET ABOVE SUPERSETaSUPERSET ABOVE SUBSETaSUBSET ABOVE SUBSET
aSUPERSET ABOVE SUPERSETbBESIDE SUBSETcAND JOINED BY DASH WITH SUBSETaELEMENT OF OPENING DOWNWARDS
aPITCHFORK WITH TEE TOPaTRANSVERSAL INTERSECTIONaFORKINGaNONFORKINGaSHORT LEFT TACKbDOWN TACK
bUP TACKaPERPENDICULAR WITH SaVERTICAL BAR TRIPLE RIGHT TURNSTILE
aDOUBLE VERTICAL BAR LEFT TURNSTILEaVERTICAL BAR DOUBLE LEFT TURNSTILE
aDOUBLE VERTICAL BAR DOUBLE LEFT TURNSTILEaLONG DASH FROM LEFT MEMBER OF DOUBLE VERTICAL
aSHORT DOWN TACK WITH OVERBARbUP TACK WITH UNDERBARdABOVE SHORT DOWN TACKaDOUBLE DOWN TACKbUP TACK
bSTROKE NOT SIGNaREVERSED DOUBLE STROKE NOT SIGNaDOES NOT DIVIDE WITH REVERSED NEGATION SLASH
aVERTICAL LINE WITH CIRCLE ABOVEeBELOWaDOWN TACK WITH CIRCLE BELOWaPARALLEL WITH HORIZONTAL STROKE
cTILDE OPERATORaTRIPLE VERTICAL BAR BINARY RELATIONdWITH HORIZONTAL STROKEbCOLON OPERATOR
bNESTED LESS-THANcGREATER-THANaDOUBLE-LINE SLANTED LESS-THAN OR EQUAL TOcGREATER-THAN OR EQUAL TO
aTRIPLE SOLIDUS BINARY RELATIONaLARGE TRIPLE VERTICAL BAR OPERATORaDOUBLE SOLIDUS OPERATOR
aWHITE VERTICAL BARaN-ARY WHITE VERTICAL BARaNORTH EAST WHITE ARROWbWEST WHITE ARROW
aSOUTH EAST WHITE ARROWbWEST WHITE ARROWaLEFT RIGHT WHITE ARROWaLEFTWARDS BLACK ARROW
aUPWARDS BLACK ARROWaDOWNWARDS BLACK ARROWaNORTH EAST BLACK ARROWbWEST BLACK ARROW
aSOUTH EAST BLACK ARROWbWEST BLACK ARROWaLEFT RIGHT BLACK ARROWaUP DOWN BLACK ARROW
aRIGHTWARDS ARROW WITH TIP DOWNWARDSeUPWARDSaLEFTWARDS ARROW WITH TIP DOWNWARDSeUPWARDS
aSQUARE WITH TOP HALF BLACKcBOTTOM HALF BLACKcUPPER RIGHT DIAGONAL HALF BLACK
cLOWER LEFT DIAGONAL HALF BLACKaDIAMOND WITH LEFT HALF BLACKcRIGHT HALF BLACKcTOP HALF BLACK
cBOTTOM HALF BLACKaDOTTED SQUAREaBLACK LARGE SQUAREaWHITE LARGE SQUAREaBLACK VERY SMALL SQUARE
aWHITE VERY SMALL SQUAREaBLACK PENTAGONaWHITE PENTAGONbHEXAGONaBLACK HEXAGON
aHORIZONTAL BLACK HEXAGONaBLACK LARGE CIRCLEbMEDIUM DIAMONDaWHITE MEDIUM DIAMOND
aBLACK MEDIUM LOZENGEaWHITE MEDIUM LOZENGEaBLACK SMALL DIAMONDcLOZENGEaWHITE SMALL LOZENGE
aBLACK HORIZONTAL ELLIPSEaWHITE HORIZONTAL ELLIPSEaBLACK VERTICAL ELLIPSEaWHITE VERTICAL ELLIPSE
aLEFT ARROW WITH SMALL CIRCLEaTHREE LEFTWARDS ARROWSaLEFT ARROW WITH CIRCLED PLUS
aLONG LEFTWARDS SQUIGGLE ARROWaLEFTWARDS TWO-HEADED ARROW WITH VERTICAL STROKE
eDOUBLE VERTICAL STROKEdFROM BARcTRIPLE DASH ARROWbARROW WITH DOTTED STEMdTAIL WITH VERTICAL STROKE
fDOUBLE VERTICAL STROKEbTWO-HEADED ARROW WITH TAILfWITH VERTICAL STROKEgDOUBLE VERTICAL STROKE
bARROW THROUGH XaWAVE ARROW POINTING DIRECTLY LEFTaEQUALS SIGN ABOVE LEFTWARDS ARROW
aREVERSE TILDE OPERATOR ABOVE LEFTWARDS ARROWaLEFTWARDS ARROW ABOVE REVERSE ALMOST EQUAL TO
aRIGHTWARDS ARROW THROUGH GREATER-THANdSUPERSETaLEFTWARDS QUADRUPLE ARROW
aRIGHTWARDS QUADRUPLE ARROWaREVERSE TILDE OPERATOR ABOVE RIGHTWARDS ARROW
aRIGHTWARDS ARROW ABOVE REVERSE ALMOST EQUAL TOaTILDE OPERATOR ABOVE LEFTWARDS ARROW
aLEFTWARDS ARROW ABOVE ALMOST EQUAL TOdREVERSE TILDE OPERATOR
aRIGHTWARDS ARROW ABOVE REVERSE TILDE OPERATORaDOWNWARDS TRIANGLE-HEADED ZIGZAG ARROW
aSHORT SLANTED NORTH ARROWbBACKSLANTED SOUTH ARROWaWHITE MEDIUM STARaBLACK SMALL STAR
aWHITE SMALL STARaBLACK RIGHT-POINTING PENTAGONaWHITE RIGHT-POINTING PENTAGONaHEAVY LARGE CIRCLE
bOVAL WITH OVAL INSIDEbCIRCLE WITH CIRCLE INSIDEbCIRCLEbCIRCLED SALTIRE
aSLANTED NORTH ARROW WITH HOOKED HEADaBACKSLANTED SOUTH ARROW WITH HOOKED TAIL
aSLANTED NORTH ARROW WITH HORIZONTAL TAILaBACKSLANTED SOUTH ARROW WITH HORIZONTAL TAIL
aBENT ARROW POINTING DOWNWARDS THEN NORTH EASTaSHORT BENT ARROW POINTING DOWNWARDS THEN NORTH EAST
aLEFTWARDS TRIANGLE-HEADED ARROWaUPWARDS TRIANGLE-HEADED ARROWaRIGHTWARDS TRIANGLE-HEADED ARROW
aDOWNWARDS TRIANGLE-HEADED ARROWaLEFT RIGHT TRIANGLE-HEADED ARROWaUP DOWN TRIANGLE-HEADED ARROW
aNORTH WEST TRIANGLE-HEADED ARROWbEAST TRIANGLE-HEADED ARROWaSOUTH EAST TRIANGLE-HEADED ARROW
bWEST TRIANGLE-HEADED ARROWaLEFTWARDS TRIANGLE-HEADED DASHED ARROW
aUPWARDS TRIANGLE-HEADED DASHED ARROWaRIGHTWARDS TRIANGLE-HEADED DASHED ARROW
aDOWNWARDS TRIANGLE-HEADED DASHED ARROWaCLOCKWISE TRIANGLE-HEADED OPEN CIRCLE ARROW
aANTICLOCKWISE TRIANGLE-HEADED OPEN CIRCLE ARROWaLEFTWARDS TRIANGLE-HEADED ARROW TO BAR
aUPWARDS TRIANGLE-HEADED ARROW TO BARaRIGHTWARDS TRIANGLE-HEADED ARROW TO BAR
aDOWNWARDS TRIANGLE-HEADED ARROW TO BARx2aNORTH WEST TRIANGLE-HEADED ARROW TO BAR
bEAST TRIANGLE-HEADED ARROW TO BARaSOUTH EAST TRIANGLE-HEADED ARROW TO BAR
bWEST TRIANGLE-HEADED ARROW TO BARaLEFTWARDS TRIANGLE-HEADED ARROW WITH DOUBLE HORIZONTAL STROKE
aUPWARDS TRIANGLE-HEADED ARROW WITH DOUBLE HORIZONTAL STROKE
aRIGHTWARDS TRIANGLE-HEADED ARROW WITH DOUBLE HORIZONTAL STROKE
aDOWNWARDS TRIANGLE-HEADED ARROW WITH DOUBLE HORIZONTAL STROKEaHORIZONTAL TAB KEYaVERTICAL TAB KEY
aLEFTWARDS TRIANGLE-HEADED ARROW OVER RIGHTWARDS TRIANGLE-HEADED ARROW
aUPWARDS TRIANGLE-HEADED ARROW LEFTWARDS OF DOWNWARDS TRIANGLE-HEADED ARROW
aRIGHTWARDS TRIANGLE-HEADED ARROW OVER LEFTWARDS TRIANGLE-HEADED ARROW
aDOWNWARDS TRIANGLE-HEADED ARROW LEFTWARDS OF UPWARDS TRIANGLE-HEADED ARROW
aLEFTWARDS TRIANGLE-HEADED PAIRED ARROWSaUPWARDS TRIANGLE-HEADED PAIRED ARROWS
aRIGHTWARDS TRIANGLE-HEADED PAIRED ARROWSaDOWNWARDS TRIANGLE-HEADED PAIRED ARROWS
aLEFTWARDS BLACK CIRCLED WHITE ARROWaUPWARDS BLACK CIRCLED WHITE ARROW
aRIGHTWARDS BLACK CIRCLED WHITE ARROWaDOWNWARDS BLACK CIRCLED WHITE ARROW
aANTICLOCKWISE TRIANGLE-HEADED RIGHT U-SHAPED ARROWcBOTTOM U-SHAPED ARROWcLEFT U-SHAPED ARROW
cTOP U-SHAPED ARROWaRETURN LEFTbRIGHTaNEWLINE LEFTbRIGHTaFOUR CORNER ARROWS CIRCLING ANTICLOCKWISE
aRIGHTWARDS BLACK ARROWx1aSYMBOL FOR TYPE A ELECTRONICS
aTHREE-D TOP-LIGHTED LEFTWARDS EQUILATERAL ARROWHEADbRIGHT-LIGHTED UPWARDS EQUILATERAL ARROWHEAD
bTOP-LIGHTED RIGHTWARDS EQUILATERAL ARROWHEADbLEFT-LIGHTED DOWNWARDS EQUILATERAL ARROWHEAD
aBLACK LEFTWARDS EQUILATERAL ARROWHEADbUPWARDS EQUILATERAL ARROWHEAD
bRIGHTWARDS EQUILATERAL ARROWHEADbDOWNWARDS EQUILATERAL ARROWHEAD
aDOWNWARDS TRIANGLE-HEADED ARROW WITH LONG TIP LEFTWARDSgRIGHTWARDS
aUPWARDS TRIANGLE-HEADED ARROW WITH LONG TIP LEFTWARDSgRIGHTWARDS
aLEFTWARDS TRIANGLE-HEADED ARROW WITH LONG TIP UPWARDS
aRIGHTWARDS TRIANGLE-HEADED ARROW WITH LONG TIP UPWARDS
aLEFTWARDS TRIANGLE-HEADED ARROW WITH LONG TIP DOWNWARDS
aRIGHTWARDS TRIANGLE-HEADED ARROW WITH LONG TIP DOWNWARDS
aBLACK CURVED DOWNWARDS AND LEFTWARDS ARROWeRIGHTWARDS ARROWcUPWARDS AND LEFTWARDS ARROW
eRIGHTWARDS ARROWcLEFTWARDS AND UPWARDS ARROWcRIGHTWARDS AND UPWARDS ARROW
cLEFTWARDS AND DOWNWARDS ARROWcRIGHTWARDS AND DOWNWARDS ARROWaRIBBON ARROW DOWN LEFTdRIGHTcUP LEFT
dRIGHTcLEFT UPcRIGHT UPcLEFT DOWNcRIGHT DOWNaUPWARDS WHITE ARROW FROM BAR WITH HORIZONTAL BAR
aUP ARROWHEAD IN A RECTANGLE BOXaOVERLAPPING WHITE SQUAREScAND BLACK SQUARESbBLACK SQUARES
aBALLOT BOX WITH LIGHT XaCIRCLED XbBOLD XaBLACK SQUARE CENTREDbDIAMOND CENTRED
aTURNED BLACK PENTAGONaHORIZONTAL BLACK OCTAGONaBLACK OCTAGONbMEDIUM UP-POINTING TRIANGLE CENTRED
cDOWN-POINTING TRIANGLE CENTREDcLEFT-POINTING TRIANGLE CENTREDcRIGHT-POINTING TRIANGLE CENTRED
aNEPTUNE FORM TWOaTOP HALF BLACK CIRCLEaBOTTOM HALF BLACK CIRCLEaLIGHT FOUR POINTED BLACK CUSP
aROTATED LIGHT FOUR POINTED BLACK CUSPaWHITE FOUR POINTED CUSPaROTATED WHITE FOUR POINTED CUSP
aSQUARE POSITION INDICATORaUNCERTAINTY SIGNaGROUP MARKaPLUTO FORM TWOcTHREEcFOURcFIVEaTRANSPLUTO
aPROSERPINAaASTRAEAaHYGIEAaPHOLUSaNESSUSaWHITE MOON SELENAaBLACK DIAMOND ON CROSS
aTRUE LIGHT MOON ARTAaCUPIDOaHADESaZEUSaKRONOSaAPOLLONaADMETOSaVULCANUSaPOSEIDON
aLEFT HALF BLACK STARaRIGHT HALF BLACK STARaSTAR WITH LEFT HALF BLACKcRIGHT HALF BLACK
aLEFTWARDS TWO-HEADED ARROW WITH TRIANGLE ARROWHEADS
aUPWARDS TWO-HEADED ARROW WITH TRIANGLE ARROWHEADS
aRIGHTWARDS TWO-HEADED ARROW WITH TRIANGLE ARROWHEADS
aDOWNWARDS TWO-HEADED ARROW WITH TRIANGLE ARROWHEADSaERIS FORM ONEcTWOaSEDNA
aRUSSIAN ASTROLOGICAL SYMBOL VIGINTILEdNOVILEdQUINTILEdBINOVILEdSENTAGONdTREDECILE
aEQUALS SIGN WITH INFINITY BELOWaUNITED SYMBOLaSEPARATED SYMBOLaDOUBLED SYMBOLaPASSED SYMBOL
aREVERSED RIGHT ANGLEaHELLSCHREIBER PAUSE SYMBOLaGLAGOLITIC CAPITAL LETTER AZUdBUKYdVEDEdGLAGOLI
dDOBROdYESTUdZHIVETEdDZELOdZEMLJAdIZHEdINITIAL IZHEdIdDJERVIdKAKOdLJUDIJEdMYSLITEdNASHIdONUdPOKOJI
dRITSIdSLOVOdTVRIDOdUKUdFRITUdHERUdOTUdPEdSHTAdTSIdCHRIVIdSHAdYERUdYERIdYATIdSPIDERY HAdYU
dSMALL YUSfWITH TAILdYOdIOTATED SMALL YUSdBIG YUSdIOTATED BIG YUSdFITAdIZHITSAdSHTAPICdTROKUTASTI A
dLATINATE MYSLITEdCAUDATE CHRIVIbSMALL LETTER AZUdBUKYdVEDEdGLAGOLIdDOBROdYESTUdZHIVETEdDZELO
dZEMLJAdIZHEdINITIAL IZHEdIdDJERVIdKAKOdLJUDIJEdMYSLITEdNASHIdONUdPOKOJIdRITSIdSLOVOdTVRIDOdUKU
dFRITUdHERUdOTUdPEdSHTAdTSIdCHRIVIdSHAdYERUdYERIdYATIdSPIDERY HAdYUdSMALL YUSfWITH TAILdYO
dIOTATED SMALL YUSdBIG YUSdIOTATED BIG YUSdFITAdIZHITSAdSHTAPICdTROKUTASTI AdLATINATE MYSLITE
dCAUDATE CHRIVIaLATIN CAPITAL LETTER L WITH DOUBLE BARbSMALL LETTER L WITH DOUBLE BAR
bCAPITAL LETTER L WITH MIDDLE TILDEdP WITH STROKEdR WITH TAILbSMALL LETTER A WITH STROKE
dT WITH DIAGONAL STROKEbCAPITAL LETTER H WITH DESCENDERbSMALL LETTER H WITH DESCENDER
bCAPITAL LETTER K WITH DESCENDERbSMALL LETTER K WITH DESCENDERbCAPITAL LETTER Z WITH DESCENDER
bSMALL LETTER Z WITH DESCENDERbCAPITAL LETTER ALPHAdM WITH HOOKdTURNED AeALPHA
bSMALL LETTER V WITH RIGHT HOOKbCAPITAL LETTER W WITH HOOKbSMALL LETTER W WITH HOOKdV WITH CURL
bCAPITAL LETTER HALF HbSMALL LETTER HALF HdTAILLESS PHIdE WITH NOTCHdTURNED R WITH TAIL
dO WITH LOW RING INSIDEbLETTER SMALL CAPITAL TURNED EbSUBSCRIPT SMALL LETTER J
aMODIFIER LETTER CAPITAL VaLATIN CAPITAL LETTER S WITH SWASH TAILdZ WITH SWASH TAIL
aCOPTIC CAPITAL LETTER ALFAbSMALL LETTER ALFAbCAPITAL LETTER VIDAbSMALL LETTER VIDA
bCAPITAL LETTER GAMMAbSMALL LETTER GAMMAbCAPITAL LETTER DALDAbSMALL LETTER DALDAbCAPITAL LETTER EIE
bSMALL LETTER EIEbCAPITAL LETTER SOUbSMALL LETTER SOUbCAPITAL LETTER ZATAbSMALL LETTER ZATA
bCAPITAL LETTER HATEbSMALL LETTER HATEbCAPITAL LETTER THETHEbSMALL LETTER THETHE
bCAPITAL LETTER IAUDAbSMALL LETTER IAUDAbCAPITAL LETTER KAPAbSMALL LETTER KAPAbCAPITAL LETTER LAULA
bSMALL LETTER LAULAbCAPITAL LETTER MIbSMALL LETTER MIbCAPITAL LETTER NIbSMALL LETTER NI
bCAPITAL LETTER KSIbSMALL LETTER KSIbCAPITAL LETTER ObSMALL LETTER ObCAPITAL LETTER PI
bSMALL LETTER PIbCAPITAL LETTER RObSMALL LETTER RObCAPITAL LETTER SIMAbSMALL LETTER SIMA
bCAPITAL LETTER TAUbSMALL LETTER TAUbCAPITAL LETTER UAbSMALL LETTER UAbCAPITAL LETTER FI
bSMALL LETTER FIbCAPITAL LETTER KHIbSMALL LETTER KHIbCAPITAL LETTER PSIbSMALL LETTER PSI
bCAPITAL LETTER OOUbSMALL LETTER OOUbCAPITAL LETTER DIALECT-P ALEFbSMALL LETTER DIALECT-P ALEF
bCAPITAL LETTER OLD COPTIC AINbSMALL LETTER OLD COPTIC AINbCAPITAL LETTER CRYPTOGRAMMIC EIE
bSMALL LETTER CRYPTOGRAMMIC EIEbCAPITAL LETTER DIALECT-P KAPAbSMALL LETTER DIALECT-P KAPA
bCAPITAL LETTER DIALECT-P NIbSMALL LETTER DIALECT-P NIbCAPITAL LETTER CRYPTOGRAMMIC NI
bSMALL LETTER CRYPTOGRAMMIC NIbCAPITAL LETTER OLD COPTIC OOUbSMALL LETTER OLD COPTIC OOU
bCAPITAL LETTER SAMPIbSMALL LETTER SAMPIbCAPITAL LETTER CROSSED SHEIbSMALL LETTER CROSSED SHEI
bCAPITAL LETTER OLD COPTIC SHEIbSMALL LETTER OLD COPTIC SHEIbCAPITAL LETTER OLD COPTIC ESH
bSMALL LETTER OLD COPTIC ESHbCAPITAL LETTER AKHMIMIC KHEIbSMALL LETTER AKHMIMIC KHEI
bCAPITAL LETTER DIALECT-P HORIbSMALL LETTER DIALECT-P HORIbCAPITAL LETTER OLD COPTIC HORI
bSMALL LETTER OLD COPTIC HORIbCAPITAL LETTER OLD COPTIC HAbSMALL LETTER OLD COPTIC HA
bCAPITAL LETTER L-SHAPED HAbSMALL LETTER L-SHAPED HAbCAPITAL LETTER OLD COPTIC HEI
bSMALL LETTER OLD COPTIC HEIbCAPITAL LETTER OLD COPTIC HATbSMALL LETTER OLD COPTIC HAT
bCAPITAL LETTER OLD COPTIC GANGIAbSMALL LETTER OLD COPTIC GANGIAbCAPITAL LETTER OLD COPTIC DJA
bSMALL LETTER OLD COPTIC DJAbCAPITAL LETTER OLD COPTIC SHIMAbSMALL LETTER OLD COPTIC SHIMA
bCAPITAL LETTER OLD NUBIAN SHIMAbSMALL LETTER OLD NUBIAN SHIMAbCAPITAL LETTER OLD NUBIAN NGI
bSMALL LETTER OLD NUBIAN NGIbCAPITAL LETTER OLD NUBIAN NYIbSMALL LETTER OLD NUBIAN NYI
bCAPITAL LETTER OLD NUBIAN WAUbSMALL LETTER OLD NUBIAN WAUbSYMBOL KAIcMI ROcPI ROcSTAUROScTAU RO
cKHI ROcSHIMA SIMAbCAPITAL LETTER CRYPTOGRAMMIC SHEIbSMALL LETTER CRYPTOGRAMMIC SHEI
bCAPITAL LETTER CRYPTOGRAMMIC GANGIAbSMALL LETTER CRYPTOGRAMMIC GANGIAbCOMBINING NI ABOVE
cSPIRITUS ASPERdLENISbCAPITAL LETTER BOHAIRIC KHEIbSMALL LETTER BOHAIRIC KHEIx5
bOLD NUBIAN FULL STOPdDIRECT QUESTION MARKdINDIRECT QUESTION MARKdVERSE DIVIDERbFRACTION ONE HALF
bFULL STOPbMORPHOLOGICAL DIVIDERaGEORGIAN SMALL LETTER ANdBANdGANdDONdENdVINdZENdTANdINdKANdLASdMAN
dNARdONdPARdZHARdRAEdSANdTARdUNdPHARdKHARdGHANdQARdSHINdCHINdCANdJILdCILdCHARdXANdJHANdHAEdHEdHIE
dWEdHARdHOEx1dYNx5dAENx2aTIFINAGH LETTER YAcYABcYABHcYAGcYAGHHcBERBER ACADEMY YAJcYAJcYADcYADHcYADD
cYADDHcYEYcYAFcYAKcTUAREG YAKcYAKHHcYAHcBERBER ACADEMY YAHcTUAREG YAHcYAHHcYAAcYAKHcTUAREG YAKHcYAQ
cTUAREG YAQcYIcYAZHcAHAGGAR YAZHcTUAREG YAZHcYALcYAMcYANcTUAREG YAGNdYANGcYAPcYUcYARcYARRcYAGH
cTUAREG YAGHcAYER YAGHcYAScYASScYASHcYATcYATHcYACHcYATTcYAVcYAWcYAYcYAZcTAWELLEMET YAZcYAZZcYEcYOx7
bMODIFIER LETTER LABIALIZATION MARKbSEPARATOR MARKx14bCONSONANT JOINERaETHIOPIC SYLLABLE LOAcMOA
cROAcSOAcSHOAcBOAcTOAcCOAcNOAcNYOAcGLOTTAL OAcZOAcDOAcDDOAcJOAcTHOAcCHOAcPHOAcPOAcGGWAcGGWIcGGWEE
cGGWEx9cSSAcSSUcSSIcSSAAcSSEEcSSEcSSOx1cCCAcCCUcCCIcCCAAcCCEEcCCEcCCOx1cZZAcZZUcZZIcZZAAcZZEEcZZE
cZZOx1cCCHAcCCHUcCCHIcCCHAAcCCHEEcCCHEcCCHOx1cQYAcQYUcQYIcQYAAcQYEEcQYEcQYOx1cKYAcKYUcKYIcKYAAcKYEE
cKYEcKYOx1cXYAcXYUcXYIcXYAAcXYEEcXYEcXYOx1cGYAcGYUcGYIcGYAAcGYEEcGYEcGYOx1
aCOMBINING CYRILLIC LETTER BEdVEdGHEdDEdZHEdZEdKAdELdEMdENdOdPEdERdESdTEdHAdTSEdCHEdSHAdSHCHAdFITA
dES-TEdAdIEdDJERVdMONOGRAPH UKdYATdYUdIOTIFIED AdLITTLE YUSdBIG YUSdIOTIFIED BIG YUS
aRIGHT ANGLE SUBSTITUTION MARKERcDOTTED SUBSTITUTION MARKERaLEFT SUBSTITUTION BRACKET
aRIGHT SUBSTITUTION BRACKETaLEFT DOTTED SUBSTITUTION BRACKETaRIGHT DOTTED SUBSTITUTION BRACKET
aRAISED INTERPOLATION MARKERbDOTTED INTERPOLATION MARKERaDOTTED TRANSPOSITION MARKER
aLEFT TRANSPOSITION BRACKETaRIGHT TRANSPOSITION BRACKETaRAISED SQUAREaLEFT RAISED OMISSION BRACKET
aRIGHT RAISED OMISSION BRACKETaEDITORIAL CORONISaPARAGRAPHOSaFORKED PARAGRAPHOS
aREVERSED FORKED PARAGRAPHOSaHYPODIASTOLEaDOTTED OBELOSaDOWNWARDS ANCORAaUPWARDS ANCORA
aDOTTED RIGHT-POINTING ANGLEaDOUBLE OBLIQUE HYPHENaINVERTED INTERROBANGaPALM BRANCH
aHYPHEN WITH DIAERESISaTILDE WITH RING ABOVEaLEFT LOW PARAPHRASE BRACKET
aRIGHT LOW PARAPHRASE BRACKETaTILDE WITH DOT ABOVEdBELOWaLEFT VERTICAL BAR WITH QUILL
aRIGHT VERTICAL BAR WITH QUILLaTOP LEFT HALF BRACKETbRIGHT HALF BRACKETaBOTTOM LEFT HALF BRACKET
bRIGHT HALF BRACKETaLEFT SIDEWAYS U BRACKETaRIGHT SIDEWAYS U BRACKETaLEFT DOUBLE PARENTHESIS
aRIGHT DOUBLE PARENTHESISaTWO DOTS OVER ONE DOT PUNCTUATIONaONE DOT OVER TWO DOTS PUNCTUATION
aSQUARED FOUR DOT PUNCTUATIONaFIVE DOT MARKaREVERSED QUESTION MARKaVERTICAL TILDEaRING POINT
aWORD SEPARATOR MIDDLE DOTaTURNED COMMAaRAISED DOTbCOMMAaTURNED SEMICOLONaDAGGER WITH LEFT GUARD
cRIGHT GUARDaTURNED DAGGERaTOP HALF SECTION SIGNaTWO-EM DASHaTHREE-EM DASHaSTENOGRAPHIC FULL STOP
aVERTICAL SIX DOTSaWIGGLY VERTICAL LINEaCAPITULUMaDOUBLE HYPHENaREVERSED COMMA
aDOUBLE LOW-REVERSED-9 QUOTATION MARKaDASH WITH LEFT UPTURNaDOUBLE SUSPENSION MARK
aINVERTED LOW KAVYKAdWITH KAVYKA ABOVEaLOW KAVYKAcWITH DOTaDOUBLE STACKED COMMAaDOTTED SOLIDUS
aTRIPLE DAGGERaMEDIEVAL COMMAaPARAGRAPHUS MARKaPUNCTUS ELEVATUS MARKaCORNISH VERSE DIVIDER
aCROSS PATTY WITH RIGHT CROSSBARdLEFT CROSSBARaTIRONIAN SIGN CAPITAL ETaMEDIEVAL EXCLAMATION MARK
bQUESTION MARKaLEFT SQUARE BRACKET WITH STROKEaRIGHT SQUARE BRACKET WITH STROKE
aLEFT SQUARE BRACKET WITH DOUBLE STROKEaRIGHT SQUARE BRACKET WITH DOUBLE STROKE
aTOP HALF LEFT PARENTHESIScRIGHT PARENTHESISaBOTTOM HALF LEFT PARENTHESIScRIGHT PARENTHESIS
aOBLIQUE HYPHENx34aCJK RADICAL REPEATcCLIFFcSECOND ONEdTWOdTHREEcPERSONcBOXcTABLEcKNIFE ONEdTWO
cDIVINATIONcSEALcSMALL ONEdTWOcLAME ONEdTWOdTHREEdFOURcSNAKEcTHREADcSNOUT ONEdTWOcHEART ONEdTWO
cHANDcRAPx1cCHOKEcSUNcMOONcDEATHcMOTHERcCIVILIANcWATER ONEdTWOcFIREcPAW ONEdTWO
cSIMPLIFIED HALF TREE TRUNKcCOWcDOGcJADEcBOLT OF CLOTHcEYEcSPIRIT ONEdTWOcBAMBOOcSILK
cC-SIMPLIFIED SILKcNET ONEdTWOdTHREEdFOURcMESHcSHEEPcRAMcEWEcOLDcBRUSH ONEdTWOcMEATcMORTAR
cGRASS ONEdTWOdTHREEcTIGERcCLOTHEScWEST ONEdTWOcC-SIMPLIFIED SEEcSIMPLIFIED HORNcHORN
cC-SIMPLIFIED SPEECHdSHELLcFOOTcC-SIMPLIFIED CARTcSIMPLIFIED WALKcWALK ONEdTWOcCITY
cC-SIMPLIFIED GOLDcLONG ONEdTWOcC-SIMPLIFIED LONGdGATEcMOUND ONEdTWOcRAINcBLUE
cC-SIMPLIFIED TANNED LEATHERdLEAFdWINDdFLYcEAT ONEdTWOdTHREEcC-SIMPLIFIED EATcHEAD
cC-SIMPLIFIED HORSEcBONEcGHOSTcC-SIMPLIFIED FISHdBIRDdSALTcSIMPLIFIED WHEATdYELLOW
cC-SIMPLIFIED FROGcJ-SIMPLIFIED EVENcC-SIMPLIFIED EVENcJ-SIMPLIFIED TOOTHcC-SIMPLIFIED TOOTH
cJ-SIMPLIFIED DRAGONcC-SIMPLIFIED DRAGONcTURTLEcJ-SIMPLIFIED TURTLEcC-SIMPLIFIED TURTLEx12
aKANGXI RADICAL ONEcLINEcDOTcSLASHcSECONDcHOOKcTWOcLIDcMANcLEGScENTERcEIGHTcDOWN BOXcCOVERcICE
cTABLEcOPEN BOXcKNIFEcPOWERcWRAPcSPOONcRIGHT OPEN BOXcHIDING ENCLOSUREcTENcDIVINATIONcSEALcCLIFF
cPRIVATEcAGAINcMOUTHcENCLOSUREcEARTHcSCHOLARcGOdSLOWLYcEVENINGcBIGcWOMANcCHILDcROOFcINCHcSMALLcLAME
cCORPSEcSPROUTcMOUNTAINcRIVERcWORKcONESELFcTURBANcDRYcSHORT THREADcDOTTED CLIFFcLONG STRIDE
cTWO HANDScSHOOTcBOWcSNOUTcBRISTLEcSTEPcHEARTcHALBERDcDOORcHANDcBRANCHcRAPcSCRIPTcDIPPERcAXEcSQUARE
cNOTcSUNcSAYcMOONcTREEcLACKcSTOPcDEATHcWEAPONcDO NOTcCOMPAREcFURcCLANcSTEAMcWATERcFIREcCLAWcFATHER
cDOUBLE XcHALF TREE TRUNKcSLICEcFANGcCOWcDOGcPROFOUNDcJADEcMELONcTILEcSWEETcLIFEcUSEcFIELD
cBOLT OF CLOTHcSICKNESScDOTTED TENTcWHITEcSKINcDISHcEYEcSPEARcARROWcSTONEcSPIRITcTRACKcGRAINcCAVE
cSTANDcBAMBOOcRICEcSILKcJARcNETcSHEEPcFEATHERcOLDcANDcPLOWcEARcBRUSHcMEATcMINISTERcSELFcARRIVE
cMORTARcTONGUEcOPPOSEcBOATcSTOPPINGcCOLORcGRASScTIGERcINSECTcBLOODcWALK ENCLOSUREcCLOTHEScWESTcSEE
cHORNcSPEECHcVALLEYcBEANcPIGcBADGERcSHELLcREDcRUNcFOOTcBODYcCARTcBITTERcMORNINGcWALKcCITYcWINE
cDISTINGUISHcVILLAGEcGOLDcLONGcGATEcMOUNDcSLAVEcSHORT TAILED BIRDcRAINcBLUEcWRONGcFACEcLEATHER
cTANNED LEATHERcLEEKcSOUNDcLEAFcWINDcFLYcEATcHEADcFRAGRANTcHORSEcBONEcTALLcHAIRcFIGHT
cSACRIFICIAL WINEcCAULDRONcGHOSTcFISHcBIRDcSALTcDEERcWHEATcHEMPcYELLOWcMILLETcBLACKcEMBROIDERYcFROG
cTRIPODcDRUMcRATcNOSEcEVENcTOOTHcDRAGONcTURTLEcFLUTEx26
aIDEOGRAPHIC DESCRIPTION CHARACTER LEFT TO RIGHTdABOVE TO BELOWdLEFT TO MIDDLE AND RIGHT
dABOVE TO MIDDLE AND BELOWdFULL SURROUNDdSURROUND FROM ABOVEfBELOWfLEFTfUPPER LEFTgRIGHTfLOWER LEFT
dOVERLAID"

end DocAudit.Text.Names
