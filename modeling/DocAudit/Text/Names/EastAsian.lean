/-!
# Names of East Asian characters

The names of the characters from U+3000 to U+FFFF: kana and other East Asian scripts, further
syllabaries, compatibility forms.
-/

namespace DocAudit.Text.Names

/-- The names from U+3000 on, in the shortened form that `Names.find` reads. -/
def eastAsian : String := "
aIDEOGRAPHIC SPACEbCOMMAbFULL STOPaDITTO MARKaJAPANESE INDUSTRIAL STANDARD SYMBOL
aIDEOGRAPHIC ITERATION MARKbCLOSING MARKbNUMBER ZEROaLEFT ANGLE BRACKETaRIGHT ANGLE BRACKET
aLEFT DOUBLE ANGLE BRACKETaRIGHT DOUBLE ANGLE BRACKETaLEFT CORNER BRACKETaRIGHT CORNER BRACKET
aLEFT WHITE CORNER BRACKETaRIGHT WHITE CORNER BRACKETaLEFT BLACK LENTICULAR BRACKET
aRIGHT BLACK LENTICULAR BRACKETaPOSTAL MARKaGETA MARKaLEFT TORTOISE SHELL BRACKET
aRIGHT TORTOISE SHELL BRACKETaLEFT WHITE LENTICULAR BRACKETaRIGHT WHITE LENTICULAR BRACKET
aLEFT WHITE TORTOISE SHELL BRACKETaRIGHT WHITE TORTOISE SHELL BRACKETaLEFT WHITE SQUARE BRACKET
aRIGHT WHITE SQUARE BRACKETaWAVE DASHaREVERSED DOUBLE PRIME QUOTATION MARK
aDOUBLE PRIME QUOTATION MARKaLOW DOUBLE PRIME QUOTATION MARKaPOSTAL MARK FACEaHANGZHOU NUMERAL ONE
cTWOcTHREEcFOURcFIVEcSIXcSEVENcEIGHTcNINEaIDEOGRAPHIC LEVEL TONE MARKbRISING TONE MARK
bDEPARTING TONE MARKbENTERING TONE MARKaHANGUL SINGLE DOT TONE MARKbDOUBLE DOT TONE MARKaWAVY DASH
aVERTICAL KANA REPEAT MARKdWITH VOICED SOUND MARKdMARK UPPER HALFdWITH VOICED SOUND MARK UPPER HALF
dMARK LOWER HALFaCIRCLED POSTAL MARKaIDEOGRAPHIC TELEGRAPH LINE FEED SEPARATOR SYMBOL
aHANGZHOU NUMERAL TENcTWENTYcTHIRTYaVERTICAL IDEOGRAPHIC ITERATION MARKaMASU MARK
aPART ALTERNATION MARKaIDEOGRAPHIC VARIATION INDICATORbHALF FILL SPACEx1aHIRAGANA LETTER SMALL AcA
cSMALL IcIcSMALL UcUcSMALL EcEcSMALL OcOcKAcGAcKIcGIcKUcGUcKEcGEcKOcGOcSAcZAcSIcZIcSUcZUcSEcZEcSO
cZOcTAcDAcTIcDIcSMALL TUcTUcDUcTEcDEcTOcDOcNAcNIcNUcNEcNOcHAcBAcPAcHIcBIcPIcHUcBUcPUcHEcBEcPEcHOcBO
cPOcMAcMIcMUcMEcMOcSMALL YAcYAcSMALL YUcYUcSMALL YOcYOcRAcRIcRUcREcROcSMALL WAcWAcWIcWEcWOcNcVU
cSMALL KAdKEx2aCOMBINING KATAKANA-HIRAGANA VOICED SOUND MARKcSEMI-VOICED SOUND MARK
aKATAKANA-HIRAGANA VOICED SOUND MARKbSEMI-VOICED SOUND MARKaHIRAGANA ITERATION MARK
bVOICED ITERATION MARKbDIGRAPH YORIaKATAKANA-HIRAGANA DOUBLE HYPHENaKATAKANA LETTER SMALL AcA
cSMALL IcIcSMALL UcUcSMALL EcEcSMALL OcOcKAcGAcKIcGIcKUcGUcKEcGEcKOcGOcSAcZAcSIcZIcSUcZUcSEcZEcSO
cZOcTAcDAcTIcDIcSMALL TUcTUcDUcTEcDEcTOcDOcNAcNIcNUcNEcNOcHAcBAcPAcHIcBIcPIcHUcBUcPUcHEcBEcPEcHOcBO
cPOcMAcMIcMUcMEcMOcSMALL YAcYAcSMALL YUcYUcSMALL YOcYOcRAcRIcRUcREcROcSMALL WAcWAcWIcWEcWOcNcVU
cSMALL KAdKEcVAcVIcVEcVObMIDDLE DOTaKATAKANA-HIRAGANA PROLONGED SOUND MARKaKATAKANA ITERATION MARK
bVOICED ITERATION MARKbDIGRAPH KOTOx5aBOPOMOFO LETTER BcPcMcFcDcTcNcLcGcKcHcJcQcXcZHcCHcSHcRcZcCcS
cAcOcEcEHcAIcEIcAUcOUcANcENcANGcENGcERcIcUcIUcVcNGcGNcIHcO WITH DOT ABOVEcNNx1aHANGUL LETTER KIYEOK
cSSANGKIYEOKcKIYEOK-SIOScNIEUNcNIEUN-CIEUCcNIEUN-HIEUHcTIKEUTcSSANGTIKEUTcRIEULcRIEUL-KIYEOK
cRIEUL-MIEUMcRIEUL-PIEUPcRIEUL-SIOScRIEUL-THIEUTHcRIEUL-PHIEUPHcRIEUL-HIEUHcMIEUMcPIEUPcSSANGPIEUP
cPIEUP-SIOScSIOScSSANGSIOScIEUNGcCIEUCcSSANGCIEUCcCHIEUCHcKHIEUKHcTHIEUTHcPHIEUPHcHIEUHcAcAEcYAcYAE
cEOcEcYEOcYEcOcWAcWAEcOEcYOcUcWEOcWEcWIcYUcEUcYIcIbFILLERbLETTER SSANGNIEUNcNIEUN-TIKEUTcNIEUN-SIOS
cNIEUN-PANSIOScRIEUL-KIYEOK-SIOScRIEUL-TIKEUTcRIEUL-PIEUP-SIOScRIEUL-PANSIOScRIEUL-YEORINHIEUH
cMIEUM-PIEUPcMIEUM-SIOScMIEUM-PANSIOScKAPYEOUNMIEUMcPIEUP-KIYEOKcPIEUP-TIKEUTcPIEUP-SIOS-KIYEOK
cPIEUP-SIOS-TIKEUTcPIEUP-CIEUCcPIEUP-THIEUTHcKAPYEOUNPIEUPcKAPYEOUNSSANGPIEUPcSIOS-KIYEOK
cSIOS-NIEUNcSIOS-TIKEUTcSIOS-PIEUPcSIOS-CIEUCcPANSIOScSSANGIEUNGcYESIEUNGcYESIEUNG-SIOS
cYESIEUNG-PANSIOScKAPYEOUNPHIEUPHcSSANGHIEUHcYEORINHIEUHcYO-YAcYO-YAEcYO-IcYU-YEOcYU-YEcYU-IcARAEA
cARAEAEx1aIDEOGRAPHIC ANNOTATION LINKING MARKcREVERSE MARKcONE MARKcTWO MARKcTHREE MARKcFOUR MARK
cTOP MARKcMIDDLE MARKcBOTTOM MARKcFIRST MARKcSECOND MARKcTHIRD MARKcFOURTH MARKcHEAVEN MARK
cEARTH MARKcMAN MARKaBOPOMOFO LETTER BUcZIcJIcGUcEEcENNcOOcONNcIRcANNcINNcUNNcIMcNGGcAINNcAUNNcAM
cOMcONGcINNNbFINAL LETTER PdTdKdHbLETTER GHcLHcZYbFINAL LETTER GbLETTER GWcKWcOEcAHaCJK STROKE TcWG
cXGcBXGcSWcHZZcHZGcHPcHZWGcSZWGcHZTcHZZPcHPWGcHZWcHZZZcNcHcScPcSPcDcHZcHGcSZcSWZcSTcSGcPDcPZcTNcSZZ
cSWGcHXWGcHZZZGcPGcQx12aKATAKANA LETTER SMALL KUdSIdSUdTOdNUdHAdHIdHUdHEdHOdMUdRAdRIdRUdREdRO
aPARENTHESIZED HANGUL KIYEOKcNIEUNcTIKEUTcRIEULcMIEUMcPIEUPcSIOScIEUNGcCIEUCcCHIEUCHcKHIEUKH
cTHIEUTHcPHIEUPHcHIEUHcKIYEOK AcNIEUN AcTIKEUT AcRIEUL AcMIEUM AcPIEUP AcSIOS AcIEUNG AcCIEUC A
cCHIEUCH AcKHIEUKH AcTHIEUTH AcPHIEUPH AcHIEUH AcCIEUC UbKOREAN CHARACTER OJEONdO HUx1
bIDEOGRAPH ONEcTWOcTHREEcFOURcFIVEcSIXcSEVENcEIGHTcNINEcTENcMOONcFIREcWATERcWOODcMETALcEARTHcSUN
cSTOCKcHAVEcSOCIETYcNAMEcSPECIALcFINANCIALcCONGRATULATIONcLABORcREPRESENTcCALLcSTUDYcSUPERVISE
cENTERPRISEcRESOURCEcALLIANCEcFESTIVALcRESTcSELFcREACHaCIRCLED IDEOGRAPH QUESTIONcKINDERGARTEN
cSCHOOLcKOTObNUMBER TEN ON BLACK SQUAREcTWENTY ON BLACK SQUAREcTHIRTY ON BLACK SQUARE
cFORTY ON BLACK SQUAREcFIFTY ON BLACK SQUAREcSIXTY ON BLACK SQUAREcSEVENTY ON BLACK SQUARE
cEIGHTY ON BLACK SQUAREaPARTNERSHIP SIGNaCIRCLED NUMBER TWENTY ONEdTWOdTHREEdFOURdFIVEdSIXdSEVEN
dEIGHTdNINEcTHIRTYdONEdTWOdTHREEdFOURdFIVEbHANGUL KIYEOKcNIEUNcTIKEUTcRIEULcMIEUMcPIEUPcSIOScIEUNG
cCIEUCcCHIEUCHcKHIEUKHcTHIEUTHcPHIEUPHcHIEUHcKIYEOK AcNIEUN AcTIKEUT AcRIEUL AcMIEUM AcPIEUP A
cSIOS AcIEUNG AcCIEUC AcCHIEUCH AcKHIEUKH AcTHIEUTH AcPHIEUPH AcHIEUH AbKOREAN CHARACTER CHAMKO
dJUEUIbHANGUL IEUNG UaKOREAN STANDARD SYMBOLaCIRCLED IDEOGRAPH ONEcTWOcTHREEcFOURcFIVEcSIXcSEVEN
cEIGHTcNINEcTENcMOONcFIREcWATERcWOODcMETALcEARTHcSUNcSTOCKcHAVEcSOCIETYcNAMEcSPECIALcFINANCIAL
cCONGRATULATIONcLABORcSECRETcMALEcFEMALEcSUITABLEcEXCELLENTcPRINTcATTENTIONcITEMcRESTcCOPYcCORRECT
cHIGHcCENTREcLOWcLEFTcRIGHTcMEDICINEcRELIGIONcSTUDYcSUPERVISEcENTERPRISEcRESOURCEcALLIANCEcNIGHT
bNUMBER THIRTY SIXdSEVENdEIGHTdNINEcFORTYdONEdTWOdTHREEdFOURdFIVEdSIXdSEVENdEIGHTdNINEcFIFTY
aIDEOGRAPHIC TELEGRAPH SYMBOL FOR JANUARYeFEBRUARYeMARCHeAPRILeMAYeJUNEeJULYeAUGUSTeSEPTEMBER
eOCTOBEReNOVEMBEReDECEMBERaSQUARE HGbERGbEVaLIMITED LIABILITY SIGNaCIRCLED KATAKANA AcIcUcEcOcKAcKI
cKUcKEcKOcSAcSIcSUcSEcSOcTAcTIcTUcTEcTOcNAcNIcNUcNEcNOcHAcHIcHUcHEcHOcMAcMIcMUcMEcMOcYAcYUcYOcRAcRI
cRUcREcROcWAcWIcWEcWOaSQUARE ERA NAME REIWAbAPAATObARUHUAbANPEAbAARUbININGUbINTIbUONbESUKUUDObEEKAA
bONSUbOOMUbKAIRIbKARATTObKARORIIbGARONbGANMAbGIGAbGINIIbKYURIIbGIRUDAAbKIRObKIROGURAMUbKIROMEETORU
bKIROWATTObGURAMUbGURAMUTONbKURUZEIRObKUROONEbKEESUbKORUNAbKOOPObSAIKURUbSANTIIMUbSIRINGUbSENTI
bSENTObDAASUbDESIbDORUbTONbNANObNOTTObHAITUbPAASENTObPAATUbBAARERUbPIASUTORUbPIKURUbPIKObBIRU
bHUARADDObHUIITObBUSSYERUbHURANbHEKUTAARUbPESObPENIHIbHERUTUbPENSUbPEEZIbBEETAbPOINTObBORUTObHON
bPONDObHOORUbHOONbMAIKURObMAIRUbMAHHAbMARUKUbMANSYONbMIKURONbMIRIbMIRIBAARUbMEGAbMEGATONbMEETORU
bYAADObYAARUbYUANbRITTORUbRIRAbRUPIIbRUUBURUbREMUbRENTOGENbWATTO
aIDEOGRAPHIC TELEGRAPH SYMBOL FOR HOUR ZEROfONEfTWOfTHREEfFOURfFIVEfSIXfSEVENfEIGHTfNINEfTENfELEVEN
fTWELVEfTHIRTEENfFOURTEENfFIFTEENfSIXTEENfSEVENTEENfEIGHTEENfNINETEENfTWENTYfTWENTY-ONEfTWENTY-TWO
fTWENTY-THREEfTWENTY-FOURaSQUARE HPAbDAbAUbBARbOVbPCbDMcSQUAREDcCUBEDbIUbERA NAME HEISEIdSYOUWA
dTAISYOUdMEIZIbCORPORATIONbPA AMPSbNAbMU AbMAbKAbKBbMBbGBbCALbKCALbPFbNFbMU FcGbMGbKGbHZbKHZbMHZ
bGHZbTHZbMU LbMLbDLbKLbFMbNMbMU MbMMbCMbKMbMM SQUAREDbCM SQUAREDbM SQUAREDbKM SQUAREDbMM CUBED
bCM CUBEDbM CUBEDbKM CUBEDbM OVER SeSQUAREDbPAbKPAbMPAbGPAbRADcOVER SeSQUAREDbPSbNSbMU SbMSbPVbNV
bMU VbMVbKVbMV MEGAbPWbNWbMU WbMWbKWbMW MEGAbK OHMbM OHMbAMbBQbCCbCDbC OVER KGbCObDBbGYbHAbHPbINbKK
bKM CAPITALbKTbLMbLNbLOGbLXbMB SMALLbMILbMOLbPHbPMbPPMbPRbSRbSVbWBbV OVER MbA OVER M
aIDEOGRAPHIC TELEGRAPH SYMBOL FOR DAY ONEfTWOfTHREEfFOURfFIVEfSIXfSEVENfEIGHTfNINEfTENfELEVEN
fTWELVEfTHIRTEENfFOURTEENfFIFTEENfSIXTEENfSEVENTEENfEIGHTEENfNINETEENfTWENTYfTWENTY-ONEfTWENTY-TWO
fTWENTY-THREEfTWENTY-FOURfTWENTY-FIVEfTWENTY-SIXfTWENTY-SEVENfTWENTY-EIGHTfTWENTY-NINEfTHIRTY
fTHIRTY-ONEaSQUARE GALx6592aHEXAGRAM FOR THE CREATIVE HEAVENdRECEPTIVE EARTH
cDIFFICULTY AT THE BEGINNINGcYOUTHFUL FOLLYcWAITINGcCONFLICTcTHE ARMYcHOLDING TOGETHERcSMALL TAMING
cTREADINGcPEACEcSTANDSTILLcFELLOWSHIPcGREAT POSSESSIONcMODESTYcENTHUSIASMcFOLLOWING
cWORK ON THE DECAYEDcAPPROACHcCONTEMPLATIONcBITING THROUGHcGRACEcSPLITTING APARTcRETURNcINNOCENCE
cGREAT TAMINGcMOUTH CORNERScGREAT PREPONDERANCEcTHE ABYSMAL WATERdCLINGING FIREcINFLUENCEcDURATION
cRETREATcGREAT POWERcPROGRESScDARKENING OF THE LIGHTcTHE FAMILYcOPPOSITIONcOBSTRUCTIONcDELIVERANCE
cDECREASEcINCREASEcBREAKTHROUGHcCOMING TO MEETcGATHERING TOGETHERcPUSHING UPWARDcOPPRESSION
cTHE WELLcREVOLUTIONcTHE CAULDRONdAROUSING THUNDERdKEEPING STILL MOUNTAINcDEVELOPMENT
cTHE MARRYING MAIDENcABUNDANCEcTHE WANDERERdGENTLE WINDdJOYOUS LAKEcDISPERSIONcLIMITATION
cINNER TRUTHcSMALL PREPONDERANCEcAFTER COMPLETIONcBEFORE COMPLETIONx20992aYI SYLLABLE ITcIXcIcIP
cIETcIEXcIEcIEPcATcAXcAcAPcUOXcUOcUOPcOTcOXcOcOPcEXcEcWUcBITcBIXcBIcBIPcBIETcBIEXcBIEcBIEPcBATcBAX
cBAcBAPcBUOXcBUOcBUOPcBOTcBOXcBOcBOPcBEXcBEcBEPcBUTcBUXcBUcBUPcBURXcBURcBYTcBYXcBYcBYPcBYRXcBYRcPIT
cPIXcPIcPIPcPIEXcPIEcPIEPcPATcPAXcPAcPAPcPUOXcPUOcPUOPcPOTcPOXcPOcPOPcPUTcPUXcPUcPUPcPURXcPURcPYT
cPYXcPYcPYPcPYRXcPYRcBBITcBBIXcBBIcBBIPcBBIETcBBIEXcBBIEcBBIEPcBBATcBBAXcBBAcBBAPcBBUOXcBBUOcBBUOP
cBBOTcBBOXcBBOcBBOPcBBEXcBBEcBBEPcBBUTcBBUXcBBUcBBUPcBBURXcBBURcBBYTcBBYXcBBYcBBYPcNBITcNBIXcNBI
cNBIPcNBIEXcNBIEcNBIEPcNBATcNBAXcNBAcNBAPcNBOTcNBOXcNBOcNBOPcNBUTcNBUXcNBUcNBUPcNBURXcNBURcNBYT
cNBYXcNBYcNBYPcNBYRXcNBYRcHMITcHMIXcHMIcHMIPcHMIEXcHMIEcHMIEPcHMATcHMAXcHMAcHMAPcHMUOXcHMUOcHMUOP
cHMOTcHMOXcHMOcHMOPcHMUTcHMUXcHMUcHMUPcHMURXcHMURcHMYXcHMYcHMYPcHMYRXcHMYRcMITcMIXcMIcMIPcMIEXcMIE
cMIEPcMATcMAXcMAcMAPcMUOTcMUOXcMUOcMUOPcMOTcMOXcMOcMOPcMEXcMEcMUTcMUXcMUcMUPcMURXcMURcMYTcMYXcMY
cMYPcFITcFIXcFIcFIPcFATcFAXcFAcFAPcFOXcFOcFOPcFUTcFUXcFUcFUPcFURXcFURcFYTcFYXcFYcFYPcVITcVIXcVIcVIP
cVIETcVIEXcVIEcVIEPcVATcVAXcVAcVAPcVOTcVOXcVOcVOPcVEXcVEPcVUTcVUXcVUcVUPcVURXcVURcVYTcVYXcVYcVYP
cVYRXcVYRcDITcDIXcDIcDIPcDIEXcDIEcDIEPcDATcDAXcDAcDAPcDUOXcDUOcDOTcDOXcDOcDOPcDEXcDEcDEPcDUTcDUXcDU
cDUPcDURXcDURcTITcTIXcTIcTIPcTIEXcTIEcTIEPcTATcTAXcTAcTAPcTUOTcTUOXcTUOcTUOPcTOTcTOXcTOcTOPcTEXcTE
cTEPcTUTcTUXcTUcTUPcTURXcTURcDDITcDDIXcDDIcDDIPcDDIEXcDDIEcDDIEPcDDATcDDAXcDDAcDDAPcDDUOXcDDUO
cDDUOPcDDOTcDDOXcDDOcDDOPcDDEXcDDEcDDEPcDDUTcDDUXcDDUcDDUPcDDURXcDDURcNDITcNDIXcNDIcNDIPcNDIEXcNDIE
cNDATcNDAXcNDAcNDAPcNDOTcNDOXcNDOcNDOPcNDEXcNDEcNDEPcNDUTcNDUXcNDUcNDUPcNDURXcNDURcHNITcHNIXcHNI
cHNIPcHNIETcHNIEXcHNIEcHNIEPcHNATcHNAXcHNAcHNAPcHNUOXcHNUOcHNOTcHNOXcHNOPcHNEXcHNEcHNEPcHNUTcNIT
cNIXcNIcNIPcNIEXcNIEcNIEPcNAXcNAcNAPcNUOXcNUOcNUOPcNOTcNOXcNOcNOPcNEXcNEcNEPcNUTcNUXcNUcNUPcNURX
cNURcHLITcHLIXcHLIcHLIPcHLIEXcHLIEcHLIEPcHLATcHLAXcHLAcHLAPcHLUOXcHLUOcHLUOPcHLOXcHLOcHLOPcHLEXcHLE
cHLEPcHLUTcHLUXcHLUcHLUPcHLURXcHLURcHLYTcHLYXcHLYcHLYPcHLYRXcHLYRcLITcLIXcLIcLIPcLIETcLIEXcLIEcLIEP
cLATcLAXcLAcLAPcLUOTcLUOXcLUOcLUOPcLOTcLOXcLOcLOPcLEXcLEcLEPcLUTcLUXcLUcLUPcLURXcLURcLYTcLYXcLYcLYP
cLYRXcLYRcGITcGIXcGIcGIPcGIETcGIEXcGIEcGIEPcGATcGAXcGAcGAPcGUOTcGUOXcGUOcGUOPcGOTcGOXcGOcGOPcGET
cGEXcGEcGEPcGUTcGUXcGUcGUPcGURXcGURcKITcKIXcKIcKIPcKIEXcKIEcKIEPcKATcKAXcKAcKAPcKUOXcKUOcKUOPcKOT
cKOXcKOcKOPcKETcKEXcKEcKEPcKUTcKUXcKUcKUPcKURXcKURcGGITcGGIXcGGIcGGIEXcGGIEcGGIEPcGGATcGGAXcGGA
cGGAPcGGUOTcGGUOXcGGUOcGGUOPcGGOTcGGOXcGGOcGGOPcGGETcGGEXcGGEcGGEPcGGUTcGGUXcGGUcGGUPcGGURXcGGUR
cMGIEXcMGIEcMGATcMGAXcMGAcMGAPcMGUOXcMGUOcMGUOPcMGOTcMGOXcMGOcMGOPcMGEXcMGEcMGEPcMGUTcMGUXcMGUcMGUP
cMGURXcMGURcHXITcHXIXcHXIcHXIPcHXIETcHXIEXcHXIEcHXIEPcHXATcHXAXcHXAcHXAPcHXUOTcHXUOXcHXUOcHXUOP
cHXOTcHXOXcHXOcHXOPcHXEXcHXEcHXEPcNGIEXcNGIEcNGIEPcNGATcNGAXcNGAcNGAPcNGUOTcNGUOXcNGUOcNGOTcNGOX
cNGOcNGOPcNGEXcNGEcNGEPcHITcHIEXcHIEcHATcHAXcHAcHAPcHUOTcHUOXcHUOcHUOPcHOTcHOXcHOcHOPcHEXcHEcHEP
cWATcWAXcWAcWAPcWUOXcWUOcWUOPcWOXcWOcWOPcWEXcWEcWEPcZITcZIXcZIcZIPcZIEXcZIEcZIEPcZATcZAXcZAcZAP
cZUOXcZUOcZUOPcZOTcZOXcZOcZOPcZEXcZEcZEPcZUTcZUXcZUcZUPcZURXcZURcZYTcZYXcZYcZYPcZYRXcZYRcCITcCIXcCI
cCIPcCIETcCIEXcCIEcCIEPcCATcCAXcCAcCAPcCUOXcCUOcCUOPcCOTcCOXcCOcCOPcCEXcCEcCEPcCUTcCUXcCUcCUPcCURX
cCURcCYTcCYXcCYcCYPcCYRXcCYRcZZITcZZIXcZZIcZZIPcZZIETcZZIEXcZZIEcZZIEPcZZATcZZAXcZZAcZZAPcZZOXcZZO
cZZOPcZZEXcZZEcZZEPcZZUXcZZUcZZUPcZZURXcZZURcZZYTcZZYXcZZYcZZYPcZZYRXcZZYRcNZITcNZIXcNZIcNZIPcNZIEX
cNZIEcNZIEPcNZATcNZAXcNZAcNZAPcNZUOXcNZUOcNZOXcNZOPcNZEXcNZEcNZUXcNZUcNZUPcNZURXcNZURcNZYTcNZYXcNZY
cNZYPcNZYRXcNZYRcSITcSIXcSIcSIPcSIEXcSIEcSIEPcSATcSAXcSAcSAPcSUOXcSUOcSUOPcSOTcSOXcSOcSOPcSEXcSE
cSEPcSUTcSUXcSUcSUPcSURXcSURcSYTcSYXcSYcSYPcSYRXcSYRcSSITcSSIXcSSIcSSIPcSSIEXcSSIEcSSIEPcSSATcSSAX
cSSAcSSAPcSSOTcSSOXcSSOcSSOPcSSEXcSSEcSSEPcSSUTcSSUXcSSUcSSUPcSSYTcSSYXcSSYcSSYPcSSYRXcSSYRcZHAT
cZHAXcZHAcZHAPcZHUOXcZHUOcZHUOPcZHOTcZHOXcZHOcZHOPcZHETcZHEXcZHEcZHEPcZHUTcZHUXcZHUcZHUPcZHURXcZHUR
cZHYTcZHYXcZHYcZHYPcZHYRXcZHYRcCHATcCHAXcCHAcCHAPcCHUOTcCHUOXcCHUOcCHUOPcCHOTcCHOXcCHOcCHOPcCHET
cCHEXcCHEcCHEPcCHUXcCHUcCHUPcCHURXcCHURcCHYTcCHYXcCHYcCHYPcCHYRXcCHYRcRRAXcRRAcRRUOXcRRUOcRROTcRROX
cRROcRROPcRRETcRREXcRREcRREPcRRUTcRRUXcRRUcRRUPcRRURXcRRURcRRYTcRRYXcRRYcRRYPcRRYRXcRRYRcNRATcNRAX
cNRAcNRAPcNROXcNROcNROPcNRETcNREXcNREcNREPcNRUTcNRUXcNRUcNRUPcNRURXcNRURcNRYTcNRYXcNRYcNRYPcNRYRX
cNRYRcSHATcSHAXcSHAcSHAPcSHUOXcSHUOcSHUOPcSHOTcSHOXcSHOcSHOPcSHETcSHEXcSHEcSHEPcSHUTcSHUXcSHUcSHUP
cSHURXcSHURcSHYTcSHYXcSHYcSHYPcSHYRXcSHYRcRATcRAXcRAcRAPcRUOXcRUOcRUOPcROTcROXcROcROPcREXcREcREP
cRUTcRUXcRUcRUPcRURXcRURcRYTcRYXcRYcRYPcRYRXcRYRcJITcJIXcJIcJIPcJIETcJIEXcJIEcJIEPcJUOTcJUOXcJUO
cJUOPcJOTcJOXcJOcJOPcJUTcJUXcJUcJUPcJURXcJURcJYTcJYXcJYcJYPcJYRXcJYRcQITcQIXcQIcQIPcQIETcQIEXcQIE
cQIEPcQUOTcQUOXcQUOcQUOPcQOTcQOXcQOcQOPcQUTcQUXcQUcQUPcQURXcQURcQYTcQYXcQYcQYPcQYRXcQYRcJJITcJJIX
cJJIcJJIPcJJIETcJJIEXcJJIEcJJIEPcJJUOXcJJUOcJJUOPcJJOTcJJOXcJJOcJJOPcJJUTcJJUXcJJUcJJUPcJJURXcJJUR
cJJYTcJJYXcJJYcJJYPcNJITcNJIXcNJIcNJIPcNJIETcNJIEXcNJIEcNJIEPcNJUOXcNJUOcNJOTcNJOXcNJOcNJOPcNJUX
cNJUcNJUPcNJURXcNJURcNJYTcNJYXcNJYcNJYPcNJYRXcNJYRcNYITcNYIXcNYIcNYIPcNYIETcNYIEXcNYIEcNYIEPcNYUOX
cNYUOcNYUOPcNYOTcNYOXcNYOcNYOPcNYUTcNYUXcNYUcNYUPcXITcXIXcXIcXIPcXIETcXIEXcXIEcXIEPcXUOXcXUOcXOT
cXOXcXOcXOPcXYTcXYXcXYcXYPcXYRXcXYRcYITcYIXcYIcYIPcYIETcYIEXcYIEcYIEPcYUOTcYUOXcYUOcYUOPcYOTcYOXcYO
cYOPcYUTcYUXcYUcYUPcYURXcYURcYYTcYYXcYYcYYPcYYRXcYYRx3bRADICAL QOTcLIcKITcNYIPcCYPcSSIcGGOPcGEPcMI
cHXITcLYRcBBUTcMOPcYOcPUTcHXUOcTATcGAcZUPcCYTcDDURcBURcGGUOcNYOPcTUcOPcJJUTcZOTcPYTcHMOcYITcVURcSHY
cVEPcZAcJOcNZUPcJJYcGOTcJJIEcWOcDUcSHURcLIEcCYcCUOPcCIPcHXOPcSHATcZURcSHOPcCHEcZZIETcNBIEcKEx9
aLISU LETTER BAcPAcPHAcDAcTAcTHAcGAcKAcKHAcJAcCAcCHAcDZAcTSAcTSHAcMAcNAcLAcSAcZHAcZAcNGAcHAcXAcHHA
cFAcWAcSHAcYAcGHAcAcAEcEcEUcIcOcUcUEcUHcOEcTONE MYA TIdNA POdMYA CYAeBOeNAeJEUbPUNCTUATION COMMA
cFULL STOPaVAI SYLLABLE EEcEENcHEEcWEEcWEENcPEEcBHEEcBEEcMBEEcKPEEcMGBEEcGBEEcFEEcVEEcTEEcTHEEcDHEE
cDHHEEcLEEcREEcDEEcNDEEcSEEcSHEEcZEEcZHEEcCEEcJEEcNJEEcYEEcKEEcNGGEEcGEEcMEEcNEEcNYEEcIcINcHIcHIN
cWIcWINcPIcBHIcBIcMBIcKPIcMGBIcGBIcFIcVIcTIcTHIcDHIcDHHIcLIcRIcDIcNDIcSIcSHIcZIcZHIcCIcJIcNJIcYIcKI
cNGGIcGIcMIcNIcNYIcAcANcNGANcHAcHANcWAcWANcPAcBHAcBAcMBAcKPAcKPANcMGBAcGBAcFAcVAcTAcTHAcDHAcDHHAcLA
cRAcDAcNDAcSAcSHAcZAcZHAcCAcJAcNJAcYAcKAcKANcNGGAcGAcMAcNAcNYAcOOcOONcHOOcWOOcWOONcPOOcBHOOcBOO
cMBOOcKPOOcMGBOOcGBOOcFOOcVOOcTOOcTHOOcDHOOcDHHOOcLOOcROOcDOOcNDOOcSOOcSHOOcZOOcZHOOcCOOcJOOcNJOO
cYOOcKOOcNGGOOcGOOcMOOcNOOcNYOOcUcUNcHUcHUNcWUcWUNcPUcBHUcBUcMBUcKPUcMGBUcGBUcFUcVUcTUcTHUcDHUcDHHU
cLUcRUcDUcNDUcSUcSHUcZUcZHUcCUcJUcNJUcYUcKUcNGGUcGUcMUcNUcNYUcOcONcNGONcHOcHONcWOcWONcPOcBHOcBOcMBO
cKPOcMGBOcGBOcGBONcFOcVOcTOcTHOcDHOcDHHOcLOcROcDOcNDOcSOcSHOcZOcZHOcCOcJOcNJOcYOcKOcNGGOcGOcMOcNO
cNYOcEcENcNGENcHEcHENcWEcWENcPEcBHEcBEcMBEcKPEcKPENcMGBEcGBEcGBENcFEcVEcTEcTHEcDHEcDHHEcLEcREcDE
cNDEcSEcSHEcZEcZHEcCEcJEcNJEcYEcKEcNGGEcNGGENcGEcGENcMEcNEcNYEcNGcLENGTHENERbCOMMAbFULL STOP
bQUESTION MARKbSYLLABLE NDOLE FAdKAdSOObSYMBOL FEENGcKEENGcTINGcNIIcBANGcFAAcTAAcDANGcDOONGcKUNG
cTONGcDO-OcJONGbDIGIT ZEROcONEcTWOcTHREEcFOURcFIVEcSIXcSEVENcEIGHTcNINEbSYLLABLE NDOLE MAdDOx20
aCYRILLIC CAPITAL LETTER ZEMLYAbSMALL LETTER ZEMLYAbCAPITAL LETTER DZELObSMALL LETTER DZELO
bCAPITAL LETTER REVERSED DZEbSMALL LETTER REVERSED DZEbCAPITAL LETTER IOTAbSMALL LETTER IOTA
bCAPITAL LETTER DJERVbSMALL LETTER DJERVbCAPITAL LETTER MONOGRAPH UKbSMALL LETTER MONOGRAPH UK
bCAPITAL LETTER BROAD OMEGAbSMALL LETTER BROAD OMEGAbCAPITAL LETTER NEUTRAL YER
bSMALL LETTER NEUTRAL YERbCAPITAL LETTER YERU WITH BACK YERbSMALL LETTER YERU WITH BACK YER
bCAPITAL LETTER IOTIFIED YATbSMALL LETTER IOTIFIED YATbCAPITAL LETTER REVERSED YU
bSMALL LETTER REVERSED YUbCAPITAL LETTER IOTIFIED AbSMALL LETTER IOTIFIED A
bCAPITAL LETTER CLOSED LITTLE YUSbSMALL LETTER CLOSED LITTLE YUSbCAPITAL LETTER BLENDED YUS
bSMALL LETTER BLENDED YUSbCAPITAL LETTER IOTIFIED CLOSED LITTLE YUS
bSMALL LETTER IOTIFIED CLOSED LITTLE YUSbCAPITAL LETTER YNbSMALL LETTER YN
bCAPITAL LETTER REVERSED TSEbSMALL LETTER REVERSED TSEbCAPITAL LETTER SOFT DEbSMALL LETTER SOFT DE
bCAPITAL LETTER SOFT ELbSMALL LETTER SOFT ELbCAPITAL LETTER SOFT EMbSMALL LETTER SOFT EM
bCAPITAL LETTER MONOCULAR ObSMALL LETTER MONOCULAR ObCAPITAL LETTER BINOCULAR O
bSMALL LETTER BINOCULAR ObCAPITAL LETTER DOUBLE MONOCULAR ObSMALL LETTER DOUBLE MONOCULAR O
bLETTER MULTIOCULAR OaCOMBINING CYRILLIC VZMETcTEN MILLIONS SIGNcHUNDRED MILLIONS SIGN
cTHOUSAND MILLIONS SIGNaSLAVONIC ASTERISKaCOMBINING CYRILLIC LETTER UKRAINIAN IEdIdYIdUdHARD SIGN
dYERUdSOFT SIGNdOMEGAcKAVYKAcPAYEROKaCYRILLIC KAVYKAbPAYEROKbCAPITAL LETTER DWEbSMALL LETTER DWE
bCAPITAL LETTER DZWEbSMALL LETTER DZWEbCAPITAL LETTER ZHWEbSMALL LETTER ZHWEbCAPITAL LETTER CCHE
bSMALL LETTER CCHEbCAPITAL LETTER DZZEbSMALL LETTER DZZEbCAPITAL LETTER TE WITH MIDDLE HOOK
bSMALL LETTER TE WITH MIDDLE HOOKbCAPITAL LETTER TWEbSMALL LETTER TWEbCAPITAL LETTER TSWE
bSMALL LETTER TSWEbCAPITAL LETTER TSSEbSMALL LETTER TSSEbCAPITAL LETTER TCHEbSMALL LETTER TCHE
bCAPITAL LETTER HWEbSMALL LETTER HWEbCAPITAL LETTER SHWEbSMALL LETTER SHWEbCAPITAL LETTER DOUBLE O
bSMALL LETTER DOUBLE ObCAPITAL LETTER CROSSED ObSMALL LETTER CROSSED O
aMODIFIER LETTER CYRILLIC HARD SIGNdSOFT SIGNaCOMBINING CYRILLIC LETTER EFdIOTIFIED E
aBAMUM LETTER AcKAcUcKUcEEcREEcTAEcOcNYIcIcLAcPAcRIIcRIEEcLEEEEcMEEEEcTAAcNDAAcNJAEMcMcSUUcMUcSHII
cSIcSHEUXcSEUXcKYEEcKETcNUAEcNUcNJUAEcYOQcSHUcYUQcYAcNSHAcKEUXcPEUXcNJEEcNTEEcPUEcWUEcPEEcFEEcRUcLU
cMIcNIcREUXcRAEcKENcNGKWAENcNGGAcNGAcSHOcPUAEcFUcFOMcWAcNAcLIcPIcLOQcKOcMBENcRENcMENcMAcTIcKIcMO
cMBAAcTETcKPAcTENcNTUUcSAMBAcFAAMAEcKOVUUcKOGHOMbCOMBINING MARK KOQNDONdTUKWENTISbNJAEMLIbFULL STOP
bCOLONbCOMMAbSEMICOLONbQUESTION MARKx8aMODIFIER LETTER CHINESE TONE YIN PINGeYANG PINGeYIN SHANG
eYANG SHANGeYIN QUeYANG QUeYIN RUeYANG RUcEXTRA-HIGH DOTTED TONE BARcHIGH DOTTED TONE BAR
cMID DOTTED TONE BARcLOW DOTTED TONE BARcEXTRA-LOW DOTTED TONE BAR
cEXTRA-HIGH DOTTED LEFT-STEM TONE BARcHIGH DOTTED LEFT-STEM TONE BARcMID DOTTED LEFT-STEM TONE BAR
cLOW DOTTED LEFT-STEM TONE BARcEXTRA-LOW DOTTED LEFT-STEM TONE BARcEXTRA-HIGH LEFT-STEM TONE BAR
cHIGH LEFT-STEM TONE BARcMID LEFT-STEM TONE BARcLOW LEFT-STEM TONE BARcEXTRA-LOW LEFT-STEM TONE BAR
cDOT VERTICAL BARdSLASHdHORIZONTAL BARcLOWER RIGHT CORNER ANGLEcRAISED UP ARROWdDOWN ARROW
dEXCLAMATION MARKdINVERTED EXCLAMATION MARKcLOW INVERTED EXCLAMATION MARKcSTRESS AND HIGH TONE
eLOW TONEaLATIN CAPITAL LETTER EGYPTOLOGICAL ALEFbSMALL LETTER EGYPTOLOGICAL ALEF
bCAPITAL LETTER EGYPTOLOGICAL AINbSMALL LETTER EGYPTOLOGICAL AINbCAPITAL LETTER HENG
bSMALL LETTER HENGbCAPITAL LETTER TZbSMALL LETTER TZbCAPITAL LETTER TRESILLObSMALL LETTER TRESILLO
bCAPITAL LETTER CUATRILLObSMALL LETTER CUATRILLObCAPITAL LETTER CUATRILLO WITH COMMA
bSMALL LETTER CUATRILLO WITH COMMAbLETTER SMALL CAPITAL FeSbCAPITAL LETTER AAbSMALL LETTER AA
bCAPITAL LETTER AObSMALL LETTER AObCAPITAL LETTER AUbSMALL LETTER AUbCAPITAL LETTER AV
bSMALL LETTER AVbCAPITAL LETTER AV WITH HORIZONTAL BARbSMALL LETTER AV WITH HORIZONTAL BAR
bCAPITAL LETTER AYbSMALL LETTER AYbCAPITAL LETTER REVERSED C WITH DOT
bSMALL LETTER REVERSED C WITH DOTbCAPITAL LETTER K WITH STROKEbSMALL LETTER K WITH STROKE
bCAPITAL LETTER K WITH DIAGONAL STROKEbSMALL LETTER K WITH DIAGONAL STROKE
bCAPITAL LETTER K WITH STROKE AND DIAGONAL STROKEbSMALL LETTER K WITH STROKE AND DIAGONAL STROKE
bCAPITAL LETTER BROKEN LbSMALL LETTER BROKEN LbCAPITAL LETTER L WITH HIGH STROKE
bSMALL LETTER L WITH HIGH STROKEbCAPITAL LETTER O WITH LONG STROKE OVERLAY
bSMALL LETTER O WITH LONG STROKE OVERLAYbCAPITAL LETTER O WITH LOOPbSMALL LETTER O WITH LOOP
bCAPITAL LETTER OObSMALL LETTER OObCAPITAL LETTER P WITH STROKE THROUGH DESCENDER
bSMALL LETTER P WITH STROKE THROUGH DESCENDERbCAPITAL LETTER P WITH FLOURISH
bSMALL LETTER P WITH FLOURISHbCAPITAL LETTER P WITH SQUIRREL TAILbSMALL LETTER P WITH SQUIRREL TAIL
bCAPITAL LETTER Q WITH STROKE THROUGH DESCENDERbSMALL LETTER Q WITH STROKE THROUGH DESCENDER
bCAPITAL LETTER Q WITH DIAGONAL STROKEbSMALL LETTER Q WITH DIAGONAL STROKEbCAPITAL LETTER R ROTUNDA
bSMALL LETTER R ROTUNDAbCAPITAL LETTER RUM ROTUNDAbSMALL LETTER RUM ROTUNDA
bCAPITAL LETTER V WITH DIAGONAL STROKEbSMALL LETTER V WITH DIAGONAL STROKEbCAPITAL LETTER VY
bSMALL LETTER VYbCAPITAL LETTER VISIGOTHIC ZbSMALL LETTER VISIGOTHIC Z
bCAPITAL LETTER THORN WITH STROKEbSMALL LETTER THORN WITH STROKE
bCAPITAL LETTER THORN WITH STROKE THROUGH DESCENDER
bSMALL LETTER THORN WITH STROKE THROUGH DESCENDERbCAPITAL LETTER VENDbSMALL LETTER VEND
bCAPITAL LETTER ETbSMALL LETTER ETbCAPITAL LETTER ISbSMALL LETTER ISbCAPITAL LETTER CON
bSMALL LETTER CONaMODIFIER LETTER USaLATIN SMALL LETTER DUMdLUMdMUMdNUMdRUM
bLETTER SMALL CAPITAL RUMbSMALL LETTER TUMdUMbCAPITAL LETTER INSULAR DbSMALL LETTER INSULAR D
bCAPITAL LETTER INSULAR FbSMALL LETTER INSULAR FbCAPITAL LETTER INSULAR GdTURNED INSULAR G
bSMALL LETTER TURNED INSULAR GbCAPITAL LETTER TURNED LbSMALL LETTER TURNED L
bCAPITAL LETTER INSULAR RbSMALL LETTER INSULAR RbCAPITAL LETTER INSULAR SbSMALL LETTER INSULAR S
bCAPITAL LETTER INSULAR TbSMALL LETTER INSULAR TaMODIFIER LETTER LOW CIRCUMFLEX ACCENTcCOLON
cSHORT EQUALS SIGNaLATIN CAPITAL LETTER SALTILLObSMALL LETTER SALTILLObCAPITAL LETTER TURNED H
bSMALL LETTER L WITH RETROFLEX HOOK AND BELTbLETTER SINOLOGICAL DOTbCAPITAL LETTER N WITH DESCENDER
bSMALL LETTER N WITH DESCENDERbCAPITAL LETTER C WITH BARbSMALL LETTER C WITH BARfPALATAL HOOK
dH WITH PALATAL HOOKbCAPITAL LETTER B WITH FLOURISHbSMALL LETTER B WITH FLOURISH
bCAPITAL LETTER F WITH STROKEbSMALL LETTER F WITH STROKEbCAPITAL LETTER VOLAPUK AE
bSMALL LETTER VOLAPUK AEbCAPITAL LETTER VOLAPUK OEbSMALL LETTER VOLAPUK OE
bCAPITAL LETTER VOLAPUK UEbSMALL LETTER VOLAPUK UEbCAPITAL LETTER G WITH OBLIQUE STROKE
bSMALL LETTER G WITH OBLIQUE STROKEbCAPITAL LETTER K WITH OBLIQUE STROKE
bSMALL LETTER K WITH OBLIQUE STROKEbCAPITAL LETTER N WITH OBLIQUE STROKE
bSMALL LETTER N WITH OBLIQUE STROKEbCAPITAL LETTER R WITH OBLIQUE STROKE
bSMALL LETTER R WITH OBLIQUE STROKEbCAPITAL LETTER S WITH OBLIQUE STROKE
bSMALL LETTER S WITH OBLIQUE STROKEbCAPITAL LETTER H WITH HOOKdREVERSED OPEN EdSCRIPT GdL WITH BELT
dSMALL CAPITAL IbLETTER SMALL CAPITAL QbCAPITAL LETTER TURNED KeTdJ WITH CROSSED-TAILdCHIdBETA
bSMALL LETTER BETAbCAPITAL LETTER OMEGAbSMALL LETTER OMEGAbCAPITAL LETTER U WITH STROKE
bSMALL LETTER U WITH STROKEbCAPITAL LETTER GLOTTAL AbSMALL LETTER GLOTTAL A
bCAPITAL LETTER GLOTTAL IbSMALL LETTER GLOTTAL IbCAPITAL LETTER GLOTTAL UbSMALL LETTER GLOTTAL U
bCAPITAL LETTER OLD POLISH ObSMALL LETTER OLD POLISH ObCAPITAL LETTER ANGLICANA W
bSMALL LETTER ANGLICANA WbCAPITAL LETTER C WITH PALATAL HOOKdS WITH HOOKdZ WITH PALATAL HOOK
dD WITH SHORT STROKE OVERLAYbSMALL LETTER D WITH SHORT STROKE OVERLAY
bCAPITAL LETTER S WITH SHORT STROKE OVERLAYbSMALL LETTER S WITH SHORT STROKE OVERLAYx5
bCAPITAL LETTER CLOSED INSULAR GbSMALL LETTER CLOSED INSULAR Gx1dDOUBLE THORNx1eWYNN
bCAPITAL LETTER MIDDLE SCOTS SbSMALL LETTER MIDDLE SCOTS SbCAPITAL LETTER SIGMOID S
bSMALL LETTER SIGMOID Sx24aMODIFIER LETTER CAPITAL CdFdQaLATIN CAPITAL LETTER REVERSED HALF H
bSMALL LETTER REVERSED HALF HbEPIGRAPHIC LETTER SIDEWAYS IaMODIFIER LETTER CAPITAL H WITH STROKE
cSMALL LIGATURE OEaLATIN LETTER SMALL CAPITAL TURNED MbEPIGRAPHIC LETTER REVERSED FePdINVERTED M
dI LONGAdARCHAIC MaSYLOTI NAGRI LETTER AdIcSIGN DVISVARAcLETTER UdEdOcSIGN HASANTAcLETTER KOdKHOdGO
dGHOcSIGN ANUSVARAcLETTER COdCHOdJOdJHOdTTOdTTHOdDDOdDDHOdTOdTHOdDOdDHOdNOdPOdPHOdBOdBHOdMOdROdLO
dRROdSOdHOcVOWEL SIGN AeIeUeEeOOcPOETRY MARK-1dMARK-2dMARK-3dMARK-4cSIGN ALTERNATE HASANTAx3
aNORTH INDIC FRACTION ONE QUARTEReHALFdTHREE QUARTERSdONE SIXTEENTHeEIGHTHdTHREE SIXTEENTHS
cQUARTER MARKcPLACEHOLDER MARKcRUPEE MARKcQUANTITY MARKx6aPHAGS-PA LETTER KAcKHAcGAcNGAcCAcCHAcJA
cNYAcTAcTHAcDAcNAcPAcPHAcBAcMAcTSAcTSHAcDZAcWAcZHAcZAcSMALL AcYAcRAcLAcSHAcSAcHAcAcIcUcEcOcQAcXAcFA
cGGAcEEbSUBJOINED LETTER WAdYAbLETTER TTAcTTHAcDDAcNNAcALTERNATE YAcVOICELESS SHAcVOICED HA
cASPIRATED FAbSUBJOINED LETTER RAbSUPERFIXED LETTER RAbLETTER CANDRABINDUbSINGLE HEAD MARK
bDOUBLE HEAD MARKbMARK SHADcDOUBLE SHADx8aSAURASHTRA SIGN ANUSVARAcVISARGAbLETTER AcAAcIcIIcUcUU
cVOCALIC RdRRdLdLLcEcEEcAIcOcOOcAUcKAcKHAcGAcGHAcNGAcCAcCHAcJAcJHAcNYAcTTAcTTHAcDDAcDDHAcNNAcTAcTHA
cDAcDHAcNAcPAcPHAcBAcBHAcMAcYAcRAcLAcVAcSHAcSSAcSAcHAcLLAbCONSONANT SIGN HAARUbVOWEL SIGN AAdIdIIdU
dUUdVOCALIC ReRReLeLLdEdEEdAIdOdOOdAUbSIGN VIRAMAcCANDRABINDUx8bDANDAbDOUBLE DANDAbDIGIT ZEROcONE
cTWOcTHREEcFOURcFIVEcSIXcSEVENcEIGHTcNINEx6aCOMBINING DEVANAGARI DIGIT ZEROdONEdTWOdTHREEdFOURdFIVE
dSIXdSEVENdEIGHTdNINEcLETTER AdUdKAdNAdPAdRAdVIcSIGN AVAGRAHAaDEVANAGARI SIGN SPACING CANDRABINDU
cCANDRABINDU VIRAMAcDOUBLE CANDRABINDU VIRAMAcCANDRABINDU TWOdTHREEdAVAGRAHAcPUSHPIKAbGAP FILLER
bCARETbHEADSTROKEbSIGN SIDDHAMbJAIN OMbLETTER AYbVOWEL SIGN AYaKAYAH LI DIGIT ZEROdONEdTWOdTHREE
dFOURdFIVEdSIXdSEVENdEIGHTdNINEcLETTER KAdKHAdGAdNGAdSAdSHAdZAdNYAdTAdHTAdNAdPAdPHAdMAdDAdBAdRAdYA
dLAdWAdTHAdHAdVAdCAdAdOEdIdOOcVOWEL UEdEdUdEEdOcTONE PLOPHUdCALYAePLOPHUcSIGN CWIdSHYA
aREJANG LETTER KAcGAcNGAcTAcDAcNAcPAcBAcMAcCAcJAcNYAcSAcRAcLAcYAcWAcHAcMBAcNGGAcNDAcNYJAcA
bVOWEL SIGN IdUdEdAIdOdAUdEUdEAbCONSONANT SIGN NGdNdRdHbVIRAMAx11bSECTION MARK
aHANGUL CHOSEONG TIKEUT-MIEUMcTIKEUT-PIEUPcTIKEUT-SIOScTIKEUT-CIEUCcRIEUL-KIYEOKcRIEUL-SSANGKIYEOK
cRIEUL-TIKEUTcRIEUL-SSANGTIKEUTcRIEUL-MIEUMcRIEUL-PIEUPcRIEUL-SSANGPIEUPcRIEUL-KAPYEOUNPIEUP
cRIEUL-SIOScRIEUL-CIEUCcRIEUL-KHIEUKHcMIEUM-KIYEOKcMIEUM-TIKEUTcMIEUM-SIOScPIEUP-SIOS-THIEUTH
cPIEUP-KHIEUKHcPIEUP-HIEUHcSSANGSIOS-PIEUPcIEUNG-RIEULcIEUNG-HIEUHcSSANGCIEUC-HIEUHcSSANGTHIEUTH
cPHIEUPH-HIEUHcHIEUH-SIOScSSANGYEORINHIEUHx3aJAVANESE SIGN PANYANGGAcCECAKcLAYARcWIGNYANbLETTER A
cI KAWIcIcIIcUcPA CEREKcNGA LELETeRASWADIcEcAIcOcKAdSASAKdMURDAcGAdMURDAcNGAcCAdMURDAcJAcNYA MURDA
cJA MAHAPRANAcNYAcTTAdMAHAPRANAcDDAdMAHAPRANAcNA MURDAcTAdMURDAcDAdMAHAPRANAcNAcPAdMURDAcBAdMURDA
cMAcYAcRAdAGUNGcLAcWAcSA MURDAdMAHAPRANAcSAcHAbSIGN CECAK TELUbVOWEL SIGN TARUNGdTOLONGdWULUeMELIK
dSUKUeMENDUTdTALINGdDIRGA MUREdPEPETbCONSONANT SIGN KERETdPENGKALdCAKRAbPANGKONbLEFT RERENGGAN
bRIGHT RERENGGANbPADA ANDAPcMADYAcLUHURcWINDUcPANGKATcLINGSAcLUNGSIcADEGdADEGcPISELEH
bTURNED PADA PISELEHx1bPANGRANGKEPbDIGIT ZEROcONEcTWOcTHREEcFOURcFIVEcSIXcSEVENcEIGHTcNINEx4
bPADA TIRTA TUMETEScISEN-ISENaMYANMAR LETTER SHAN GHAdCHAdJHAdNNAdBHAbSIGN SHAN SAW
bMODIFIER LETTER SHAN REDUPLICATIONbLETTER TAI LAING NYAeFAeGAeGHAeJAeJHAeDDAeDDHAeNNA
bTAI LAING DIGIT ZEROeONEeTWOeTHREEeFOUReFIVEeSIXeSEVENeEIGHTeNINEbLETTER TAI LAING LLAeDAeDHAeBA
eBHAx1aCHAM LETTER AcIcUcEcAIcOcKAcKHAcGAcGHAcNGUEcNGAcCHAcCHHAcJAcJHAcNHUEcNHAcNHJAcTAcTHAcDAcDHA
cNUEcNAcDDAcPAcPPAcPHAcBAcBHAcMUEcMAcBBAcYAcRAcLAcVAcSSAcSAcHAbVOWEL SIGN AAdIdIIdEIdUdOEdOdAIdAU
dUEbCONSONANT SIGN YAdRAdLAdWAx9bLETTER FINAL KdGdNGbCONSONANT SIGN FINAL NGbLETTER FINAL CHdTdNdP
dYdRdLdSSbCONSONANT SIGN FINAL MeHx2bDIGIT ZEROcONEcTWOcTHREEcFOURcFIVEcSIXcSEVENcEIGHTcNINEx2
bPUNCTUATION SPIRALcDANDAcDOUBLE DANDAcTRIPLE DANDAaMYANMAR LETTER KHAMTI GAdCAdCHAdJAdJHAdNYAdTTA
dTTHAdDDAdDDHAdDHAdNAdSAdHAdHHAdFAbMODIFIER LETTER KHAMTI REDUPLICATIONbLETTER KHAMTI XAdZAdRA
bLOGOGRAM KHAMTI OAYdQNdHMbSYMBOL AITON EXCLAMATIONdONEdTWObLETTER AITON RAbSIGN PAO KAREN TONE
cTAI LAING TONE-2eTONE-5bLETTER SHWE PALAUNG CHAeSHAaTAI VIET LETTER LOW KOdHIGH KOdLOW KHO
dHIGH KHOdLOW KHHOdHIGH KHHOdLOW GOdHIGH GOdLOW NGOdHIGH NGOdLOW COdHIGH COdLOW CHOdHIGH CHOdLOW SO
dHIGH SOdLOW NYOdHIGH NYOdLOW DOdHIGH DOdLOW TOdHIGH TOdLOW THOdHIGH THOdLOW NOdHIGH NOdLOW BO
dHIGH BOdLOW POdHIGH POdLOW PHOdHIGH PHOdLOW FOdHIGH FOdLOW MOdHIGH MOdLOW YOdHIGH YOdLOW RO
dHIGH ROdLOW LOdHIGH LOdLOW VOdHIGH VOdLOW HOdHIGH HOdLOW OdHIGH OcMAI KANGcVOWEL AAdIdUEdUdEdO
cMAI KHITcVOWEL IAdUEAdUAdAUEdAYdANdAMcTONE MAI EKeNUENGeTHOeSONGx24cSYMBOL KONdNUENGdSAMdHO HOI
dKOI KOIaMEETEI MAYEK LETTER EdOdCHAdNYAdTTAdTTHAdDDAdDDHAdNNAdSHAdSSAcVOWEL SIGN IIeUUeAAIeAUeAAU
cCHEIKHANcAHANG KHUDAMcANJIcSYLLABLE REPETITION MARKcWORD REPETITION MARKcVOWEL SIGN VISARGAcVIRAMA
x10aETHIOPIC SYLLABLE TTHUcTTHIcTTHAAcTTHEEcTTHEcTTHOx2cDDHUcDDHIcDDHAAcDDHEEcDDHEcDDHOx2cDZUcDZI
cDZAAcDZEEcDZEcDZOx9cCCHHAcCCHHUcCCHHIcCCHHAAcCCHHEEcCCHHEcCCHHOx1cBBAcBBUcBBIcBBAAcBBEEcBBEcBBOx1
aLATIN SMALL LETTER BARRED ALPHAdA REVERSED-SCHWAdBLACKLETTER EdBARRED EdE WITH FLOURISHdLENIS F
dSCRIPT G WITH CROSSED-TAILdL WITH INVERTED LAZY SfDOUBLE MIDDLE TILDEfMIDDLE RING
dM WITH CROSSED-TAILdN WITH CROSSED-TAILdENG WITH CROSSED-TAILdBLACKLETTER OfWITH STROKE
dOPEN O WITH STROKEdINVERTED OEdTURNED OE WITH STROKEgHORIZONTAL STROKEeO OPEN-OgWITH STROKE
dSTIRRUP RbLETTER SMALL CAPITAL R WITH RIGHT LEGbSMALL LETTER R WITHOUT HANDLEdDOUBLE R
dR WITH CROSSED-TAILdDOUBLE R WITH CROSSED-TAILdSCRIPT RfWITH RINGdBASELINE ESH
dU WITH SHORT RIGHT LEGeBAR WITH SHORT RIGHT LEGdUIdTURNED UIdU WITH LEFT HOOKdCHI
eWITH LOW RIGHT RINGgLEFT SERIFdX WITH LOW RIGHT RINGfLONG LEFT LEGiAND LOW RIGHT RINGiWITH SERIF
dY WITH SHORT RIGHT LEGaMODIFIER BREVE WITH INVERTED BREVEbLETTER SMALL HENGdL WITH INVERTED LAZY S
fMIDDLE TILDEdU WITH LEFT HOOKaLATIN SMALL LETTER SAKHA YATdIOTIFIED EdOPEN OEdUOdINVERTED ALPHA
aGREEK LETTER SMALL CAPITAL OMEGAaLATIN SMALL LETTER DZ DIGRAPH WITH RETROFLEX HOOK
dTS DIGRAPH WITH RETROFLEX HOOKdTURNED R WITH MIDDLE TILDEaMODIFIER LETTER SMALL TURNED WcLEFT TACK
cRIGHT TACKx4aCHEROKEE SMALL LETTER AdEdIdOdUdVdGAdKAdGEdGIdGOdGUdGVdHAdHEdHIdHOdHUdHVdLAdLEdLIdLO
dLUdLVdMAdMEdMIdMOdMUdNAdHNAdNAHdNEdNIdNOdNUdNVdQUAdQUEdQUIdQUOdQUUdQUVdSAdSdSEdSIdSOdSUdSVdDAdTA
dDEdTEdDIdTIdDOdDUdDVdDLAdTLAdTLEdTLIdTLOdTLUdTLVdTSAdTSEdTSIdTSOdTSUdTSVdWAdWEdWIdWOdWUdWVdYA
aMEETEI MAYEK LETTER KOKdSAMdLAIdMITdPAdNAdCHILdTILdKHOUdNGOUdTHOUdWAIdYANGdHUKdUNdIdPHAMdATIYAdGOK
dJHAMdRAIdBAdJILdDILdGHOUdDHOUdBHAMdKOK LONSUMdLAI LONSUMdMIT LONSUMdPA LONSUMdNA LONSUMdTIL LONSUM
dNGOU LONSUMdI LONSUMcVOWEL SIGN ONAPeINAPeANAPeYENAPeSOUNAPeUNAPeCHEINAPeNUNGcCHEIKHEIcLUM IYEK
cAPUN IYEKx2cDIGIT ZEROdONEdTWOdTHREEdFOURdFIVEdSIXdSEVENdEIGHTdNINEx11190aHANGUL JUNGSEONG O-YEO
cO-O-IcYO-AcYO-AEcYO-EOcU-YEOcU-I-IcYU-AEcYU-OcEU-AcEU-EOcEU-EcEU-OcI-YA-OcI-YAEcI-YEOcI-YEcI-O-I
cI-YOcI-YUcI-IcARAEA-AcARAEA-Ex4bJONGSEONG NIEUN-RIEULcNIEUN-CHIEUCHcSSANGTIKEUTcSSANGTIKEUT-PIEUP
cTIKEUT-PIEUPcTIKEUT-SIOScTIKEUT-SIOS-KIYEOKcTIKEUT-CIEUCcTIKEUT-CHIEUCHcTIKEUT-THIEUTH
cRIEUL-SSANGKIYEOKcRIEUL-KIYEOK-HIEUHcSSANGRIEUL-KHIEUKHcRIEUL-MIEUM-HIEUHcRIEUL-PIEUP-TIKEUT
cRIEUL-PIEUP-PHIEUPHcRIEUL-YESIEUNGcRIEUL-YEORINHIEUH-HIEUHcKAPYEOUNRIEULcMIEUM-NIEUN
cMIEUM-SSANGNIEUNcSSANGMIEUMcMIEUM-PIEUP-SIOScMIEUM-CIEUCcPIEUP-TIKEUTcPIEUP-RIEUL-PHIEUPH
cPIEUP-MIEUMcSSANGPIEUPcPIEUP-SIOS-TIKEUTcPIEUP-CIEUCcPIEUP-CHIEUCHcSIOS-MIEUMcSIOS-KAPYEOUNPIEUP
cSSANGSIOS-KIYEOKcSSANGSIOS-TIKEUTcSIOS-PANSIOScSIOS-CIEUCcSIOS-CHIEUCHcSIOS-THIEUTHcSIOS-HIEUH
cPANSIOS-PIEUPcPANSIOS-KAPYEOUNPIEUPcYESIEUNG-MIEUMcYESIEUNG-HIEUHcCIEUC-PIEUPcCIEUC-SSANGPIEUP
cSSANGCIEUCcPHIEUPH-SIOScPHIEUPH-THIEUTHx8964aLATIN SMALL LIGATURE FFdFIdFLdFFIdFFLdLONG S TdSTx12
aARMENIAN SMALL LIGATURE MEN NOWeECHeINIdVEW NOWdMEN XEHx5aHEBREW LETTER YOD WITH HIRIQ
bPOINT JUDEO-SPANISH VARIKAbLIGATURE YIDDISH YOD YOD PATAHbLETTER ALTERNATIVE AYINcWIDE ALEFdDALET
dHEdKAFdLAMEDdFINAL MEMdRESHdTAVcALTERNATIVE PLUS SIGNcSHIN WITH SHIN DOTeSIN DOT
eDAGESH AND SHIN DOTgSIN DOTcALEF WITH PATAHeQAMATSeMAPIQcBET WITH DAGESHcGIMEL WITH DAGESH
cDALET WITH DAGESHcHE WITH MAPIQcVAV WITH DAGESHcZAYIN WITH DAGESHx1cTET WITH DAGESH
cYOD WITH DAGESHcFINAL KAF WITH DAGESHcKAF WITH DAGESHcLAMED WITH DAGESHx1cMEM WITH DAGESHx1
cNUN WITH DAGESHcSAMEKH WITH DAGESHx1cFINAL PE WITH DAGESHcPE WITH DAGESHx1cTSADI WITH DAGESH
cQOF WITH DAGESHcRESH WITH DAGESHcSHIN WITH DAGESHcTAV WITH DAGESHcVAV WITH HOLAMcBET WITH RAFE
cKAF WITH RAFEcPE WITH RAFEbLIGATURE ALEF LAMEDaARABIC LETTER ALEF WASLA ISOLATED FORMeFINAL FORM
cBEEH ISOLATED FORMdFINAL FORMdINITIAL FORMdMEDIAL FORMcPEH ISOLATED FORMdFINAL FORMdINITIAL FORM
dMEDIAL FORMcBEHEH ISOLATED FORMdFINAL FORMdINITIAL FORMdMEDIAL FORMcTTEHEH ISOLATED FORM
dFINAL FORMdINITIAL FORMdMEDIAL FORMcTEHEH ISOLATED FORMdFINAL FORMdINITIAL FORMdMEDIAL FORM
cTTEH ISOLATED FORMdFINAL FORMdINITIAL FORMdMEDIAL FORMcVEH ISOLATED FORMdFINAL FORMdINITIAL FORM
dMEDIAL FORMcPEHEH ISOLATED FORMdFINAL FORMdINITIAL FORMdMEDIAL FORMcDYEH ISOLATED FORMdFINAL FORM
dINITIAL FORMdMEDIAL FORMcNYEH ISOLATED FORMdFINAL FORMdINITIAL FORMdMEDIAL FORM
cTCHEH ISOLATED FORMdFINAL FORMdINITIAL FORMdMEDIAL FORMcTCHEHEH ISOLATED FORMdFINAL FORM
dINITIAL FORMdMEDIAL FORMcDDAHAL ISOLATED FORMdFINAL FORMcDAHAL ISOLATED FORMdFINAL FORM
cDUL ISOLATED FORMdFINAL FORMcDDAL ISOLATED FORMdFINAL FORMcJEH ISOLATED FORMdFINAL FORM
cRREH ISOLATED FORMdFINAL FORMcKEHEH ISOLATED FORMdFINAL FORMdINITIAL FORMdMEDIAL FORM
cGAF ISOLATED FORMdFINAL FORMdINITIAL FORMdMEDIAL FORMcGUEH ISOLATED FORMdFINAL FORMdINITIAL FORM
dMEDIAL FORMcNGOEH ISOLATED FORMdFINAL FORMdINITIAL FORMdMEDIAL FORMcNOON GHUNNA ISOLATED FORM
eFINAL FORMcRNOON ISOLATED FORMdFINAL FORMdINITIAL FORMdMEDIAL FORM
cHEH WITH YEH ABOVE ISOLATED FORMgFINAL FORMdGOAL ISOLATED FORMeFINAL FORMeINITIAL FORMeMEDIAL FORM
dDOACHASHMEE ISOLATED FORMeFINAL FORMeINITIAL FORMeMEDIAL FORMcYEH BARREE ISOLATED FORMeFINAL FORM
eWITH HAMZA ABOVE ISOLATED FORMhFINAL FORMbSYMBOL DOT ABOVEdBELOWcTWO DOTS ABOVEeBELOW
cTHREE DOTS ABOVEeBELOWePOINTING DOWNWARDS ABOVEgBELOWcFOUR DOTS ABOVEeBELOW
cDOUBLE VERTICAL BAR BELOWcTWO DOTS VERTICALLY ABOVEfBELOWcRINGcSMALL TAH ABOVEeBELOWcWASLA ABOVE
x16bLETTER NG ISOLATED FORMdFINAL FORMdINITIAL FORMdMEDIAL FORMcU ISOLATED FORMdFINAL FORM
cOE ISOLATED FORMdFINAL FORMcYU ISOLATED FORMdFINAL FORMcU WITH HAMZA ABOVE ISOLATED FORM
cVE ISOLATED FORMdFINAL FORMcKIRGHIZ OE ISOLATED FORMeFINAL FORMdYU ISOLATED FORMeFINAL FORM
cE ISOLATED FORMdFINAL FORMdINITIAL FORMdMEDIAL FORM
cUIGHUR KAZAKH KIRGHIZ ALEF MAKSURA INITIAL FORMhMEDIAL FORM
bLIGATURE YEH WITH HAMZA ABOVE WITH ALEF ISOLATED FORMiFINAL FORMhAE ISOLATED FORMiFINAL FORM
hWAW ISOLATED FORMiFINAL FORMhU ISOLATED FORMiFINAL FORMhOE ISOLATED FORMiFINAL FORM
hYU ISOLATED FORMiFINAL FORMhE ISOLATED FORMiFINAL FORMiINITIAL FORM
cUIGHUR KIRGHIZ YEH WITH HAMZA ABOVE WITH ALEF MAKSURA ISOLATED FORMlFINAL FORMlINITIAL FORM
bLETTER FARSI YEH ISOLATED FORMeFINAL FORMeINITIAL FORMeMEDIAL FORM
bLIGATURE YEH WITH HAMZA ABOVE WITH JEEM ISOLATED FORMhHAH ISOLATED FORMhMEEM ISOLATED FORM
hALEF MAKSURA ISOLATED FORMhYEH ISOLATED FORMcBEH WITH JEEM ISOLATED FORMeHAH ISOLATED FORM
eKHAH ISOLATED FORMeMEEM ISOLATED FORMeALEF MAKSURA ISOLATED FORMeYEH ISOLATED FORM
cTEH WITH JEEM ISOLATED FORMeHAH ISOLATED FORMeKHAH ISOLATED FORMeMEEM ISOLATED FORM
eALEF MAKSURA ISOLATED FORMeYEH ISOLATED FORMcTHEH WITH JEEM ISOLATED FORMeMEEM ISOLATED FORM
eALEF MAKSURA ISOLATED FORMeYEH ISOLATED FORMcJEEM WITH HAH ISOLATED FORMeMEEM ISOLATED FORM
cHAH WITH JEEM ISOLATED FORMeMEEM ISOLATED FORMcKHAH WITH JEEM ISOLATED FORMeHAH ISOLATED FORM
eMEEM ISOLATED FORMcSEEN WITH JEEM ISOLATED FORMeHAH ISOLATED FORMeKHAH ISOLATED FORM
eMEEM ISOLATED FORMcSAD WITH HAH ISOLATED FORMeMEEM ISOLATED FORMcDAD WITH JEEM ISOLATED FORM
eHAH ISOLATED FORMeKHAH ISOLATED FORMeMEEM ISOLATED FORMcTAH WITH HAH ISOLATED FORM
eMEEM ISOLATED FORMcZAH WITH MEEM ISOLATED FORMcAIN WITH JEEM ISOLATED FORMeMEEM ISOLATED FORM
cGHAIN WITH JEEM ISOLATED FORMeMEEM ISOLATED FORMcFEH WITH JEEM ISOLATED FORMeHAH ISOLATED FORM
eKHAH ISOLATED FORMeMEEM ISOLATED FORMeALEF MAKSURA ISOLATED FORMeYEH ISOLATED FORM
cQAF WITH HAH ISOLATED FORMeMEEM ISOLATED FORMeALEF MAKSURA ISOLATED FORMeYEH ISOLATED FORM
cKAF WITH ALEF ISOLATED FORMeJEEM ISOLATED FORMeHAH ISOLATED FORMeKHAH ISOLATED FORM
eLAM ISOLATED FORMeMEEM ISOLATED FORMeALEF MAKSURA ISOLATED FORMeYEH ISOLATED FORM
cLAM WITH JEEM ISOLATED FORMeHAH ISOLATED FORMeKHAH ISOLATED FORMeMEEM ISOLATED FORM
eALEF MAKSURA ISOLATED FORMeYEH ISOLATED FORMcMEEM WITH JEEM ISOLATED FORMeHAH ISOLATED FORM
eKHAH ISOLATED FORMeMEEM ISOLATED FORMeALEF MAKSURA ISOLATED FORMeYEH ISOLATED FORM
cNOON WITH JEEM ISOLATED FORMeHAH ISOLATED FORMeKHAH ISOLATED FORMeMEEM ISOLATED FORM
eALEF MAKSURA ISOLATED FORMeYEH ISOLATED FORMcHEH WITH JEEM ISOLATED FORMeMEEM ISOLATED FORM
eALEF MAKSURA ISOLATED FORMeYEH ISOLATED FORMcYEH WITH JEEM ISOLATED FORMeHAH ISOLATED FORM
eKHAH ISOLATED FORMeMEEM ISOLATED FORMeALEF MAKSURA ISOLATED FORMeYEH ISOLATED FORM
cTHAL WITH SUPERSCRIPT ALEF ISOLATED FORMcREH WITH SUPERSCRIPT ALEF ISOLATED FORM
cALEF MAKSURA WITH SUPERSCRIPT ALEF ISOLATED FORMcSHADDA WITH DAMMATAN ISOLATED FORM
eKASRATAN ISOLATED FORMeFATHA ISOLATED FORMeDAMMA ISOLATED FORMeKASRA ISOLATED FORM
eSUPERSCRIPT ALEF ISOLATED FORMcYEH WITH HAMZA ABOVE WITH REH FINAL FORMhZAIN FINAL FORM
hMEEM FINAL FORMhNOON FINAL FORMhALEF MAKSURA FINAL FORMhYEH FINAL FORMcBEH WITH REH FINAL FORM
eZAIN FINAL FORMeMEEM FINAL FORMeNOON FINAL FORMeALEF MAKSURA FINAL FORMeYEH FINAL FORM
cTEH WITH REH FINAL FORMeZAIN FINAL FORMeMEEM FINAL FORMeNOON FINAL FORMeALEF MAKSURA FINAL FORM
eYEH FINAL FORMcTHEH WITH REH FINAL FORMeZAIN FINAL FORMeMEEM FINAL FORMeNOON FINAL FORM
eALEF MAKSURA FINAL FORMeYEH FINAL FORMcFEH WITH ALEF MAKSURA FINAL FORMeYEH FINAL FORM
cQAF WITH ALEF MAKSURA FINAL FORMeYEH FINAL FORMcKAF WITH ALEF FINAL FORMeLAM FINAL FORM
eMEEM FINAL FORMeALEF MAKSURA FINAL FORMeYEH FINAL FORMcLAM WITH MEEM FINAL FORM
eALEF MAKSURA FINAL FORMeYEH FINAL FORMcMEEM WITH ALEF FINAL FORMeMEEM FINAL FORM
cNOON WITH REH FINAL FORMeZAIN FINAL FORMeMEEM FINAL FORMeNOON FINAL FORMeALEF MAKSURA FINAL FORM
eYEH FINAL FORMcALEF MAKSURA WITH SUPERSCRIPT ALEF FINAL FORMcYEH WITH REH FINAL FORM
eZAIN FINAL FORMeMEEM FINAL FORMeNOON FINAL FORMeALEF MAKSURA FINAL FORMeYEH FINAL FORM
eHAMZA ABOVE WITH JEEM INITIAL FORMhHAH INITIAL FORMhKHAH INITIAL FORMhMEEM INITIAL FORM
hHEH INITIAL FORMcBEH WITH JEEM INITIAL FORMeHAH INITIAL FORMeKHAH INITIAL FORMeMEEM INITIAL FORM
eHEH INITIAL FORMcTEH WITH JEEM INITIAL FORMeHAH INITIAL FORMeKHAH INITIAL FORMeMEEM INITIAL FORM
eHEH INITIAL FORMcTHEH WITH MEEM INITIAL FORMcJEEM WITH HAH INITIAL FORMeMEEM INITIAL FORM
cHAH WITH JEEM INITIAL FORMeMEEM INITIAL FORMcKHAH WITH JEEM INITIAL FORMeMEEM INITIAL FORM
cSEEN WITH JEEM INITIAL FORMeHAH INITIAL FORMeKHAH INITIAL FORMeMEEM INITIAL FORM
cSAD WITH HAH INITIAL FORMeKHAH INITIAL FORMeMEEM INITIAL FORMcDAD WITH JEEM INITIAL FORM
eHAH INITIAL FORMeKHAH INITIAL FORMeMEEM INITIAL FORMcTAH WITH HAH INITIAL FORM
cZAH WITH MEEM INITIAL FORMcAIN WITH JEEM INITIAL FORMeMEEM INITIAL FORM
cGHAIN WITH JEEM INITIAL FORMeMEEM INITIAL FORMcFEH WITH JEEM INITIAL FORMeHAH INITIAL FORM
eKHAH INITIAL FORMeMEEM INITIAL FORMcQAF WITH HAH INITIAL FORMeMEEM INITIAL FORM
cKAF WITH JEEM INITIAL FORMeHAH INITIAL FORMeKHAH INITIAL FORMeLAM INITIAL FORMeMEEM INITIAL FORM
cLAM WITH JEEM INITIAL FORMeHAH INITIAL FORMeKHAH INITIAL FORMeMEEM INITIAL FORMeHEH INITIAL FORM
cMEEM WITH JEEM INITIAL FORMeHAH INITIAL FORMeKHAH INITIAL FORMeMEEM INITIAL FORM
cNOON WITH JEEM INITIAL FORMeHAH INITIAL FORMeKHAH INITIAL FORMeMEEM INITIAL FORMeHEH INITIAL FORM
cHEH WITH JEEM INITIAL FORMeMEEM INITIAL FORMeSUPERSCRIPT ALEF INITIAL FORM
cYEH WITH JEEM INITIAL FORMeHAH INITIAL FORMeKHAH INITIAL FORMeMEEM INITIAL FORMeHEH INITIAL FORM
eHAMZA ABOVE WITH MEEM MEDIAL FORMhHEH MEDIAL FORMcBEH WITH MEEM MEDIAL FORMeHEH MEDIAL FORM
cTEH WITH MEEM MEDIAL FORMeHEH MEDIAL FORMcTHEH WITH MEEM MEDIAL FORMeHEH MEDIAL FORM
cSEEN WITH MEEM MEDIAL FORMeHEH MEDIAL FORMcSHEEN WITH MEEM MEDIAL FORMeHEH MEDIAL FORM
cKAF WITH LAM MEDIAL FORMeMEEM MEDIAL FORMcLAM WITH MEEM MEDIAL FORMcNOON WITH MEEM MEDIAL FORM
eHEH MEDIAL FORMcYEH WITH MEEM MEDIAL FORMeHEH MEDIAL FORMcSHADDA WITH FATHA MEDIAL FORM
eDAMMA MEDIAL FORMeKASRA MEDIAL FORMcTAH WITH ALEF MAKSURA ISOLATED FORMeYEH ISOLATED FORM
cAIN WITH ALEF MAKSURA ISOLATED FORMeYEH ISOLATED FORMcGHAIN WITH ALEF MAKSURA ISOLATED FORM
eYEH ISOLATED FORMcSEEN WITH ALEF MAKSURA ISOLATED FORMeYEH ISOLATED FORM
cSHEEN WITH ALEF MAKSURA ISOLATED FORMeYEH ISOLATED FORMcHAH WITH ALEF MAKSURA ISOLATED FORM
eYEH ISOLATED FORMcJEEM WITH ALEF MAKSURA ISOLATED FORMeYEH ISOLATED FORM
cKHAH WITH ALEF MAKSURA ISOLATED FORMeYEH ISOLATED FORMcSAD WITH ALEF MAKSURA ISOLATED FORM
eYEH ISOLATED FORMcDAD WITH ALEF MAKSURA ISOLATED FORMeYEH ISOLATED FORM
cSHEEN WITH JEEM ISOLATED FORMeHAH ISOLATED FORMeKHAH ISOLATED FORMeMEEM ISOLATED FORM
eREH ISOLATED FORMcSEEN WITH REH ISOLATED FORMcSAD WITH REH ISOLATED FORM
cDAD WITH REH ISOLATED FORMcTAH WITH ALEF MAKSURA FINAL FORMeYEH FINAL FORM
cAIN WITH ALEF MAKSURA FINAL FORMeYEH FINAL FORMcGHAIN WITH ALEF MAKSURA FINAL FORMeYEH FINAL FORM
cSEEN WITH ALEF MAKSURA FINAL FORMeYEH FINAL FORMcSHEEN WITH ALEF MAKSURA FINAL FORMeYEH FINAL FORM
cHAH WITH ALEF MAKSURA FINAL FORMeYEH FINAL FORMcJEEM WITH ALEF MAKSURA FINAL FORMeYEH FINAL FORM
cKHAH WITH ALEF MAKSURA FINAL FORMeYEH FINAL FORMcSAD WITH ALEF MAKSURA FINAL FORMeYEH FINAL FORM
cDAD WITH ALEF MAKSURA FINAL FORMeYEH FINAL FORMcSHEEN WITH JEEM FINAL FORMeHAH FINAL FORM
eKHAH FINAL FORMeMEEM FINAL FORMeREH FINAL FORMcSEEN WITH REH FINAL FORMcSAD WITH REH FINAL FORM
cDAD WITH REH FINAL FORMcSHEEN WITH JEEM INITIAL FORMeHAH INITIAL FORMeKHAH INITIAL FORM
eMEEM INITIAL FORMcSEEN WITH HEH INITIAL FORMcSHEEN WITH HEH INITIAL FORM
cTAH WITH MEEM INITIAL FORMcSEEN WITH JEEM MEDIAL FORMeHAH MEDIAL FORMeKHAH MEDIAL FORM
cSHEEN WITH JEEM MEDIAL FORMeHAH MEDIAL FORMeKHAH MEDIAL FORMcTAH WITH MEEM MEDIAL FORM
cZAH WITH MEEM MEDIAL FORMcALEF WITH FATHATAN FINAL FORMfISOLATED FORMaORNATE LEFT PARENTHESIS
bRIGHT PARENTHESISaARABIC LIGATURE RAHIMAHU ALLAAHcRADI ALLAAHU ANHeANHAAeANHUMeANHUMAAeANHUNNA
cSALLALLAAHU ALAYHI WA-AALIHcALAYHI AS-SALAAMcALAYHIM AS-SALAAMcALAYHIMAA AS-SALAAM
cALAYHI AS-SALAATU WAS-SALAAMcQUDDISA SIRRAHcSALLALLAHU ALAYHI WAAALIHEE WA-SALLAM
cALAYHAA AS-SALAAMcTABAARAKA WA-TAAALAAcRAHIMAHUM ALLAAHcTEH WITH JEEM WITH MEEM INITIAL FORM
eHAH WITH JEEM FINAL FORMhINITIAL FORMgMEEM INITIAL FORMeKHAH WITH MEEM INITIAL FORM
eMEEM WITH JEEM INITIAL FORMgHAH INITIAL FORMgKHAH INITIAL FORMcJEEM WITH MEEM WITH HAH FINAL FORM
hINITIAL FORMcHAH WITH MEEM WITH YEH FINAL FORMgALEF MAKSURA FINAL FORM
cSEEN WITH HAH WITH JEEM INITIAL FORMeJEEM WITH HAH INITIAL FORMgALEF MAKSURA FINAL FORM
eMEEM WITH HAH FINAL FORMhINITIAL FORMgJEEM INITIAL FORMgMEEM FINAL FORMhINITIAL FORM
cSAD WITH HAH WITH HAH FINAL FORMhINITIAL FORMeMEEM WITH MEEM FINAL FORM
cSHEEN WITH HAH WITH MEEM FINAL FORMhINITIAL FORMeJEEM WITH YEH FINAL FORM
eMEEM WITH KHAH FINAL FORMhINITIAL FORMgMEEM FINAL FORMhINITIAL FORM
cDAD WITH HAH WITH ALEF MAKSURA FINAL FORMeKHAH WITH MEEM FINAL FORMhINITIAL FORM
cTAH WITH MEEM WITH HAH FINAL FORMhINITIAL FORMgMEEM INITIAL FORMgYEH FINAL FORM
cAIN WITH JEEM WITH MEEM FINAL FORMeMEEM WITH MEEM FINAL FORMhINITIAL FORMgALEF MAKSURA FINAL FORM
cGHAIN WITH MEEM WITH MEEM FINAL FORMgYEH FINAL FORMgALEF MAKSURA FINAL FORM
cFEH WITH KHAH WITH MEEM FINAL FORMhINITIAL FORMcQAF WITH MEEM WITH HAH FINAL FORMgMEEM FINAL FORM
cLAM WITH HAH WITH MEEM FINAL FORMgYEH FINAL FORMgALEF MAKSURA FINAL FORM
eJEEM WITH JEEM INITIAL FORMhFINAL FORMeKHAH WITH MEEM FINAL FORMhINITIAL FORM
eMEEM WITH HAH FINAL FORMhINITIAL FORMcMEEM WITH HAH WITH JEEM INITIAL FORMgMEEM INITIAL FORM
gYEH FINAL FORMeJEEM WITH HAH INITIAL FORMgMEEM INITIAL FORMeKHAH WITH JEEM INITIAL FORM
gMEEM INITIAL FORMx2eJEEM WITH KHAH INITIAL FORMcHEH WITH MEEM WITH JEEM INITIAL FORM
gMEEM INITIAL FORMcNOON WITH HAH WITH MEEM INITIAL FORMgALEF MAKSURA FINAL FORM
eJEEM WITH MEEM FINAL FORMhINITIAL FORMgALEF MAKSURA FINAL FORMeMEEM WITH YEH FINAL FORM
gALEF MAKSURA FINAL FORMcYEH WITH MEEM WITH MEEM FINAL FORMhINITIAL FORM
cBEH WITH KHAH WITH YEH FINAL FORMcTEH WITH JEEM WITH YEH FINAL FORMgALEF MAKSURA FINAL FORM
eKHAH WITH YEH FINAL FORMgALEF MAKSURA FINAL FORMeMEEM WITH YEH FINAL FORMgALEF MAKSURA FINAL FORM
cJEEM WITH MEEM WITH YEH FINAL FORMeHAH WITH ALEF MAKSURA FINAL FORM
eMEEM WITH ALEF MAKSURA FINAL FORMcSEEN WITH KHAH WITH ALEF MAKSURA FINAL FORM
cSAD WITH HAH WITH YEH FINAL FORMcSHEEN WITH HAH WITH YEH FINAL FORM
cDAD WITH HAH WITH YEH FINAL FORMcLAM WITH JEEM WITH YEH FINAL FORMeMEEM WITH YEH FINAL FORM
cYEH WITH HAH WITH YEH FINAL FORMeJEEM WITH YEH FINAL FORMeMEEM WITH YEH FINAL FORM
cMEEM WITH MEEM WITH YEH FINAL FORMcQAF WITH MEEM WITH YEH FINAL FORM
cNOON WITH HAH WITH YEH FINAL FORMcQAF WITH MEEM WITH HAH INITIAL FORM
cLAM WITH HAH WITH MEEM INITIAL FORMcAIN WITH MEEM WITH YEH FINAL FORM
cKAF WITH MEEM WITH YEH FINAL FORMcNOON WITH JEEM WITH HAH INITIAL FORM
cMEEM WITH KHAH WITH YEH FINAL FORMcLAM WITH JEEM WITH MEEM INITIAL FORM
cKAF WITH MEEM WITH MEEM FINAL FORMcLAM WITH JEEM WITH MEEM FINAL FORM
cNOON WITH JEEM WITH HAH FINAL FORMcJEEM WITH HAH WITH YEH FINAL FORM
cHAH WITH JEEM WITH YEH FINAL FORMcMEEM WITH JEEM WITH YEH FINAL FORM
cFEH WITH MEEM WITH YEH FINAL FORMcBEH WITH HAH WITH YEH FINAL FORM
cKAF WITH MEEM WITH MEEM INITIAL FORMcAIN WITH JEEM WITH MEEM INITIAL FORM
cSAD WITH MEEM WITH MEEM INITIAL FORMcSEEN WITH KHAH WITH YEH FINAL FORM
cNOON WITH JEEM WITH YEH FINAL FORMx7cSALAAMUHU ALAYNAAx32
cSALLA USED AS KORANIC STOP SIGN ISOLATED FORMcQALA USED AS KORANIC STOP SIGN ISOLATED FORM
cALLAH ISOLATED FORMcAKBAR ISOLATED FORMcMOHAMMAD ISOLATED FORMcSALAM ISOLATED FORM
cRASOUL ISOLATED FORMcALAYHE ISOLATED FORMcWASALLAM ISOLATED FORMcSALLA ISOLATED FORM
cSALLALLAHOU ALAYHE WASALLAMcJALLAJALALOUHOUaRIAL SIGN
aARABIC LIGATURE BISMILLAH AR-RAHMAN AR-RAHEEMcSUBHAANAHU WA TAAALAAcAZZA WA JALL
aVARIATION SELECTOR-1bSELECTOR-2bSELECTOR-3bSELECTOR-4bSELECTOR-5bSELECTOR-6bSELECTOR-7bSELECTOR-8
bSELECTOR-9bSELECTOR-10bSELECTOR-11bSELECTOR-12bSELECTOR-13bSELECTOR-14bSELECTOR-15bSELECTOR-16
aPRESENTATION FORM FOR VERTICAL COMMAeIDEOGRAPHIC COMMAfFULL STOPeCOLONeSEMICOLONeEXCLAMATION MARK
eQUESTION MARKeLEFT WHITE LENTICULAR BRACKETeRIGHT WHITE LENTICULAR BRAKCETeHORIZONTAL ELLIPSISx6
aCOMBINING LIGATURE LEFT HALFcRIGHT HALFbDOUBLE TILDE LEFT HALFdRIGHT HALFbMACRON LEFT HALF
cRIGHT HALFbCONJOINING MACRONbLIGATURE LEFT HALF BELOWcRIGHT HALF BELOWbTILDE LEFT HALF BELOW
cRIGHT HALF BELOWbMACRON LEFT HALF BELOWcRIGHT HALF BELOWbCONJOINING MACRON BELOW
bCYRILLIC TITLO LEFT HALFdRIGHT HALFaPRESENTATION FORM FOR VERTICAL TWO DOT LEADEReEM DASHeEN DASH
eLOW LINEeWAVY LOW LINEeLEFT PARENTHESISeRIGHT PARENTHESISeLEFT CURLY BRACKETeRIGHT CURLY BRACKET
eLEFT TORTOISE SHELL BRACKETeRIGHT TORTOISE SHELL BRACKETeLEFT BLACK LENTICULAR BRACKET
eRIGHT BLACK LENTICULAR BRACKETeLEFT DOUBLE ANGLE BRACKETeRIGHT DOUBLE ANGLE BRACKET
eLEFT ANGLE BRACKETeRIGHT ANGLE BRACKETeLEFT CORNER BRACKETeRIGHT CORNER BRACKET
eLEFT WHITE CORNER BRACKETeRIGHT WHITE CORNER BRACKETaSESAME DOTaWHITE SESAME DOT
aPRESENTATION FORM FOR VERTICAL LEFT SQUARE BRACKETeRIGHT SQUARE BRACKETaDASHED OVERLINE
aCENTRELINE OVERLINEaWAVY OVERLINEaDOUBLE WAVY OVERLINEaDASHED LOW LINEaCENTRELINE LOW LINE
aWAVY LOW LINEaSMALL COMMAbIDEOGRAPHIC COMMAbFULL STOPx1bSEMICOLONbCOLONbQUESTION MARK
bEXCLAMATION MARKbEM DASHbLEFT PARENTHESISbRIGHT PARENTHESISbLEFT CURLY BRACKETbRIGHT CURLY BRACKET
bLEFT TORTOISE SHELL BRACKETbRIGHT TORTOISE SHELL BRACKETbNUMBER SIGNbAMPERSANDbASTERISKbPLUS SIGN
bHYPHEN-MINUSbLESS-THAN SIGNbGREATER-THAN SIGNbEQUALS SIGNx1bREVERSE SOLIDUSbDOLLAR SIGN
bPERCENT SIGNbCOMMERCIAL ATx4aARABIC FATHATAN ISOLATED FORMbTATWEEL WITH FATHATAN ABOVE
bDAMMATAN ISOLATED FORMbTAIL FRAGMENTbKASRATAN ISOLATED FORMx1bFATHA ISOLATED FORMcMEDIAL FORM
bDAMMA ISOLATED FORMcMEDIAL FORMbKASRA ISOLATED FORMcMEDIAL FORMbSHADDA ISOLATED FORMcMEDIAL FORM
bSUKUN ISOLATED FORMcMEDIAL FORMbLETTER HAMZA ISOLATED FORMcALEF WITH MADDA ABOVE ISOLATED FORM
gFINAL FORMeHAMZA ABOVE ISOLATED FORMgFINAL FORMcWAW WITH HAMZA ABOVE ISOLATED FORMgFINAL FORM
cALEF WITH HAMZA BELOW ISOLATED FORMgFINAL FORMcYEH WITH HAMZA ABOVE ISOLATED FORMgFINAL FORM
gINITIAL FORMgMEDIAL FORMcALEF ISOLATED FORMdFINAL FORMcBEH ISOLATED FORMdFINAL FORMdINITIAL FORM
dMEDIAL FORMcTEH MARBUTA ISOLATED FORMeFINAL FORMdISOLATED FORMdFINAL FORMdINITIAL FORMdMEDIAL FORM
cTHEH ISOLATED FORMdFINAL FORMdINITIAL FORMdMEDIAL FORMcJEEM ISOLATED FORMdFINAL FORMdINITIAL FORM
dMEDIAL FORMcHAH ISOLATED FORMdFINAL FORMdINITIAL FORMdMEDIAL FORMcKHAH ISOLATED FORMdFINAL FORM
dINITIAL FORMdMEDIAL FORMcDAL ISOLATED FORMdFINAL FORMcTHAL ISOLATED FORMdFINAL FORM
cREH ISOLATED FORMdFINAL FORMcZAIN ISOLATED FORMdFINAL FORMcSEEN ISOLATED FORMdFINAL FORM
dINITIAL FORMdMEDIAL FORMcSHEEN ISOLATED FORMdFINAL FORMdINITIAL FORMdMEDIAL FORMcSAD ISOLATED FORM
dFINAL FORMdINITIAL FORMdMEDIAL FORMcDAD ISOLATED FORMdFINAL FORMdINITIAL FORMdMEDIAL FORM
cTAH ISOLATED FORMdFINAL FORMdINITIAL FORMdMEDIAL FORMcZAH ISOLATED FORMdFINAL FORMdINITIAL FORM
dMEDIAL FORMcAIN ISOLATED FORMdFINAL FORMdINITIAL FORMdMEDIAL FORMcGHAIN ISOLATED FORMdFINAL FORM
dINITIAL FORMdMEDIAL FORMcFEH ISOLATED FORMdFINAL FORMdINITIAL FORMdMEDIAL FORMcQAF ISOLATED FORM
dFINAL FORMdINITIAL FORMdMEDIAL FORMcKAF ISOLATED FORMdFINAL FORMdINITIAL FORMdMEDIAL FORM
cLAM ISOLATED FORMdFINAL FORMdINITIAL FORMdMEDIAL FORMcMEEM ISOLATED FORMdFINAL FORMdINITIAL FORM
dMEDIAL FORMcNOON ISOLATED FORMdFINAL FORMdINITIAL FORMdMEDIAL FORMcHEH ISOLATED FORMdFINAL FORM
dINITIAL FORMdMEDIAL FORMcWAW ISOLATED FORMdFINAL FORMcALEF MAKSURA ISOLATED FORMeFINAL FORM
cYEH ISOLATED FORMdFINAL FORMdINITIAL FORMdMEDIAL FORM
bLIGATURE LAM WITH ALEF WITH MADDA ABOVE ISOLATED FORMiFINAL FORMgHAMZA ABOVE ISOLATED FORM
iFINAL FORMhBELOW ISOLATED FORMiFINAL FORMfISOLATED FORMfFINAL FORMx2aZERO WIDTH NO-BREAK SPACEx1
aFULLWIDTH EXCLAMATION MARKbQUOTATION MARKbNUMBER SIGNbDOLLAR SIGNbPERCENT SIGNbAMPERSAND
bAPOSTROPHEbLEFT PARENTHESISbRIGHT PARENTHESISbASTERISKbPLUS SIGNbCOMMAbHYPHEN-MINUSbFULL STOP
bSOLIDUSbDIGIT ZEROcONEcTWOcTHREEcFOURcFIVEcSIXcSEVENcEIGHTcNINEbCOLONbSEMICOLONbLESS-THAN SIGN
bEQUALS SIGNbGREATER-THAN SIGNbQUESTION MARKbCOMMERCIAL ATbLATIN CAPITAL LETTER AeBeCeDeEeFeGeHeIeJ
eKeLeMeNeOePeQeReSeTeUeVeWeXeYeZbLEFT SQUARE BRACKETbREVERSE SOLIDUSbRIGHT SQUARE BRACKET
bCIRCUMFLEX ACCENTbLOW LINEbGRAVE ACCENTbLATIN SMALL LETTER AeBeCeDeEeFeGeHeIeJeKeLeMeNeOePeQeReSeT
eUeVeWeXeYeZbLEFT CURLY BRACKETbVERTICAL LINEbRIGHT CURLY BRACKETbTILDEbLEFT WHITE PARENTHESIS
bRIGHT WHITE PARENTHESISaHALFWIDTH IDEOGRAPHIC FULL STOPbLEFT CORNER BRACKETbRIGHT CORNER BRACKET
bIDEOGRAPHIC COMMAbKATAKANA MIDDLE DOTcLETTER WOdSMALL AeIeUeEeOeYAeYUeYOeTU
bKATAKANA-HIRAGANA PROLONGED SOUND MARKbKATAKANA LETTER AdIdUdEdOdKAdKIdKUdKEdKOdSAdSIdSUdSEdSOdTA
dTIdTUdTEdTOdNAdNIdNUdNEdNOdHAdHIdHUdHEdHOdMAdMIdMUdMEdMOdYAdYUdYOdRAdRIdRUdREdROdWAdN
cVOICED SOUND MARKcSEMI-VOICED SOUND MARKbHANGUL FILLERcLETTER KIYEOKdSSANGKIYEOKdKIYEOK-SIOSdNIEUN
dNIEUN-CIEUCdNIEUN-HIEUHdTIKEUTdSSANGTIKEUTdRIEULdRIEUL-KIYEOKdRIEUL-MIEUMdRIEUL-PIEUPdRIEUL-SIOS
dRIEUL-THIEUTHdRIEUL-PHIEUPHdRIEUL-HIEUHdMIEUMdPIEUPdSSANGPIEUPdPIEUP-SIOSdSIOSdSSANGSIOSdIEUNG
dCIEUCdSSANGCIEUCdCHIEUCHdKHIEUKHdTHIEUTHdPHIEUPHdHIEUHx3dAdAEdYAdYAEdEOdEx2dYEOdYEdOdWAdWAEdOEx2
dYOdUdWEOdWEdWIdYUx2dEUdYIdIx3aFULLWIDTH CENT SIGNbPOUND SIGNbNOT SIGNbMACRONbBROKEN BARbYEN SIGN
bWON SIGNx1aHALFWIDTH FORMS LIGHT VERTICALbLEFTWARDS ARROWbUPWARDS ARROWbRIGHTWARDS ARROW
bDOWNWARDS ARROWbBLACK SQUAREbWHITE CIRCLEx10aINTERLINEAR ANNOTATION ANCHORcSEPARATORcTERMINATOR
aOBJECT REPLACEMENT CHARACTERaREPLACEMENT CHARACTER"

end DocAudit.Text.Names
