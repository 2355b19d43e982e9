/-!
# Names of pictographs

The names of the characters from U+1D000 on: musical and mathematical signs, emoji and other
pictographs, tags and variation selectors.
-/

namespace DocAudit.Text.Names

/-- The names from U+1D000 on, in the shortened form that `Names.find` reads. -/
def pictures : String := "
aBYZANTINE MUSICAL SYMBOL PSILIdDASEIAdPERISPOMENIdOXEIA EKFONITIKONeDIPLIdVAREIA EKFONITIKONeDIPLI
dKATHISTIdSYRMATIKIdPARAKLITIKIdYPOKRISISeDIPLIdKREMASTIdAPESO EKFONITIKONdEXO EKFONITIKONdTELEIA
dKENTIMATAdAPOSTROFOSeDIPLIdSYNEVMAdTHITAdOLIGON ARCHAIONdGORGON ARCHAIONdPSILONdCHAMILONdVATHY
dISON ARCHAIONdKENTIMA ARCHAIONdKENTIMATA ARCHAIONdSAXIMATAdPARICHONdSTAVROS APODEXIA
dOXEIAI ARCHAIONdVAREIAI ARCHAIONdAPODERMA ARCHAIONdAPOTHEMAdKLASMAdREVMAdPIASMA ARCHAIONdTINAGMA
dANATRICHISMAdSEISMAdSYNAGMA ARCHAIONeMETA STAVROUdOYRANISMA ARCHAIONdTHEMAdLEMOIdDYOdTRIAdTESSERA
dKRATIMATAdAPESO EXO NEOdFTHORA ARCHAIONdIMIFTHORAdTROMIKON ARCHAIONdKATAVA TROMIKONdPELASTON
dPSIFISTONdKONTEVMAdCHOREVMA ARCHAIONdRAPISMAdPARAKALESMA ARCHAIONdPARAKLITIKI ARCHAIONdICHADIN
dNANAdPETASMAdKONTEVMA ALLOdTROMIKON ALLOdSTRAGGISMATAdGRONTHISMATAdISON NEOdOLIGON NEOdOXEIA NEO
dPETASTIdKOUFISMAdPETASTOKOUFISMAdKRATIMOKOUFISMAdPELASTON NEOdKENTIMATA NEO ANOdKENTIMA NEO ANO
dYPSILIdAPOSTROFOS NEOdAPOSTROFOI SYNDESMOS NEOdYPORROIdKRATIMOYPORROONdELAFRONdCHAMILIdMIKRON ISON
dVAREIA NEOdPIASMA NEOdPSIFISTON NEOdOMALONdANTIKENOMAdLYGISMAdPARAKLITIKI NEOdPARAKALESMA NEO
dETERON PARAKALESMAdKYLISMAdANTIKENOKYLISMAdTROMIKON NEOdEKSTREPTONdSYNAGMA NEOdSYRMAdCHOREVMA NEO
dEPEGERMAdSEISMA NEOdXIRON KLASMAdTROMIKOPSIFISTONdPSIFISTOLYGISMAdTROMIKOLYGISMA
dTROMIKOPARAKALESMAdPSIFISTOPARAKALESMAdTROMIKOSYNAGMAdPSIFISTOSYNAGMAdGORGOSYNTHETONdARGOSYNTHETON
dETERON ARGOSYNTHETONdOYRANISMA NEOdTHEMATISMOS ESOeEXOdTHEMA APLOUNdTHES KAI APOTHESdKATAVASMA
dENDOFONONdYFEN KATOeANOdSTAVROSdKLASMA ANOdDIPLI ARCHAIONdKRATIMA ARCHAIONeALLOeNEOdAPODERMA NEO
dAPLIdDIPLIdTRIPLIdTETRAPLIdKORONISdLEIMMA ENOS CHRONOUeDYO CHRONONeTRION CHRONONeTESSARON CHRONON
eIMISEOS CHRONOUdGORGON NEO ANOePARESTIGMENON ARISTERAfDEXIAdDIGORGONePARESTIGMENON ARISTERA KATO
gANOfDEXIAdTRIGORGONdARGONdIMIDIARGONdDIARGONdAGOGI POLI ARGIeARGOTERIeARGIeMETRIAeMESIeGORGI
eGORGOTERIePOLI GORGIdMARTYRIA PROTOS ICHOSeALLI PROTOS ICHOSeDEYTEROS ICHOSeALLI DEYTEROS ICHOS
eTRITOS ICHOSeTRIFONIASeTETARTOS ICHOSfLEGETOS ICHOSeLEGETOS ICHOSePLAGIOS ICHOS
dISAKIA TELOUS ICHIMATOSdAPOSTROFOI TELOUS ICHIMATOSdFANEROSIS TETRAFONIASeMONOFONIASeDIFONIAS
dMARTYRIA VARYS ICHOSePROTOVARYS ICHOSePLAGIOS TETARTOS ICHOSdGORTHMIKON N APLOUNfDIPLOUN
dENARXIS KAI FTHORA VOUdIMIFONONdIMIFTHORONdFTHORA ARCHAION DEYTEROU ICHOUeDIATONIKI PAfNANA
eNAOS ICHOSeDIATONIKI DIeSKLIRON DIATONON DIeDIATONIKI KEfZOfNI KATOgANOeMALAKON CHROMA DIFONIAS
gMONOFONIASdFHTORA SKLIRON CHROMA VASISdFTHORA SKLIRON CHROMA SYNAFIeNENANOdCHROA ZYGOSeKLITON
eSPATHIdFTHORA I YFESIS TETARTIMORIONeENARMONIOS ANTIFONIAdYFESIS TRITIMORIONdDIESIS TRITIMORION
eTETARTIMORIONeAPLI DYO DODEKATAeMONOGRAMMOS TESSERA DODEKATAeDIGRAMMOS EX DODEKATA
eTRIGRAMMOS OKTO DODEKATAdYFESIS APLI DYO DODEKATAeMONOGRAMMOS TESSERA DODEKATA
eDIGRAMMOS EX DODEKATAeTRIGRAMMOS OKTO DODEKATAdGENIKI DIESISeYFESISdDIASTOLI APLI MIKRIfMEGALI
eDIPLIeTHESEOSdSIMANSIS THESEOSfDISIMOUfTRISIMOUfTETRASIMOUeARSEOSfDISIMOUfTRISIMOUfTETRASIMOU
dDIGRAMMA GGdDIFTOGGOS OUdSTIGMAdARKTIKO PAeVOUeGAeDIeKEeZOeNIdKENTIMATA NEO MESOdKENTIMA NEO MESO
dKENTIMATA NEO KATOdKENTIMA NEO KATOdKLASMA KATOdGORGON NEO KATOx10aMUSICAL SYMBOL SINGLE BARLINE
cDOUBLE BARLINEcFINAL BARLINEcREVERSE FINAL BARLINEcDASHED BARLINEcSHORT BARLINEcLEFT REPEAT SIGN
cRIGHT REPEAT SIGNcREPEAT DOTScDAL SEGNOcDA CAPOcSEGNOcCODAcREPEATED FIGURE-1dFIGURE-2dFIGURE-3
cFERMATAdBELOWcBREATH MARKcCAESURAcBRACEcBRACKETcONE-LINE STAFFcTWO-LINE STAFFcTHREE-LINE STAFF
cFOUR-LINE STAFFcFIVE-LINE STAFFcSIX-LINE STAFFcSIX-STRING FRETBOARDcFOUR-STRING FRETBOARDcG CLEF
eOTTAVA ALTAfBASSAcC CLEFcF CLEFeOTTAVA ALTAfBASSAcDRUM CLEF-1dCLEF-2x2cMULTIPLE MEASURE REST
cDOUBLE SHARPdFLATcFLAT UPdDOWNcNATURAL UPdDOWNcSHARP UPdDOWNcQUARTER TONE SHARPeFLATcCOMMON TIME
cCUT TIMEcOTTAVA ALTAdBASSAcQUINDICESIMA ALTAdBASSAcMULTI RESTcWHOLE RESTcHALF RESTcQUARTER REST
cEIGHTH RESTcSIXTEENTH RESTcTHIRTY-SECOND RESTcSIXTY-FOURTH RESTcONE HUNDRED TWENTY-EIGHTH REST
cX NOTEHEADcPLUS NOTEHEADcCIRCLE X NOTEHEADcSQUARE NOTEHEAD WHITEeBLACKcTRIANGLE NOTEHEAD UP WHITE
fBLACKeLEFT WHITEfBLACKeRIGHT WHITEfBLACKeDOWN WHITEfBLACKeUP RIGHT WHITEgBLACKcMOON NOTEHEAD WHITE
eBLACKcTRIANGLE-ROUND NOTEHEAD DOWN WHITEfBLACKcPARENTHESIS NOTEHEADcVOID NOTEHEADcNOTEHEAD BLACK
cNULL NOTEHEADcCLUSTER NOTEHEAD WHITEeBLACKcBREVEcWHOLE NOTEcHALF NOTEcQUARTER NOTEcEIGHTH NOTE
cSIXTEENTH NOTEcTHIRTY-SECOND NOTEcSIXTY-FOURTH NOTEcONE HUNDRED TWENTY-EIGHTH NOTEcCOMBINING STEM
dSPRECHGESANG STEMdTREMOLO-1dTREMOLO-2dTREMOLO-3cFINGERED TREMOLO-1dTREMOLO-2dTREMOLO-3
cCOMBINING AUGMENTATION DOTdFLAG-1dFLAG-2dFLAG-3dFLAG-4dFLAG-5cBEGIN BEAMcEND BEAMcBEGIN TIE
cEND TIEcBEGIN SLURcEND SLURcBEGIN PHRASEcEND PHRASEcCOMBINING ACCENTdSTACCATOdTENUTOdSTACCATISSIMO
dMARCATOdMARCATO-STACCATOdACCENT-STACCATOdLOUREcARPEGGIATO UPdDOWNcCOMBINING DOITdRIPdFLIPdSMEAR
dBENDdDOUBLE TONGUEdTRIPLE TONGUEcRINFORZANDOcSUBITOcZcPIANOcMEZZOcFORTEcCRESCENDOcDECRESCENDO
cGRACE NOTE SLASHeNO SLASHcTRcTURNcINVERTED TURNcTURN SLASHdUPcORNAMENT STROKE-1dSTROKE-2dSTROKE-3
dSTROKE-4dSTROKE-5dSTROKE-6dSTROKE-7dSTROKE-8dSTROKE-9dSTROKE-10dSTROKE-11cHAUPTSTIMMEcNEBENSTIMME
cEND OF STIMMEcDEGREE SLASHcCOMBINING DOWN BOWdUP BOWdHARMONICdSNAP PIZZICATOcPEDAL MARKdUP MARK
cHALF PEDAL MARKcGLISSANDO UPdDOWNcWITH FINGERNAILScDAMPdALLcMAXIMAcLONGAcBREVIScSEMIBREVIS WHITE
dBLACKcMINIMAdBLACKcSEMIMINIMA WHITEdBLACKcFUSA WHITEdBLACKcLONGA PERFECTA RESTdIMPERFECTA REST
cBREVIS RESTcSEMIBREVIS RESTcMINIMA RESTcSEMIMINIMA RESTcTEMPUS PERFECTUM CUM PROLATIONE PERFECTA
gIMPERFECTAgPERFECTA DIMINUTION-1dIMPERFECTUM CUM PROLATIONE PERFECTAgIMPERFECTAhDIMINUTION-1
hDIMINUTION-2hDIMINUTION-3cCROIXcGREGORIAN C CLEFdF CLEFcSQUARE BcVIRGAcPODATUScCLIVIScSCANDICUS
cCLIMACUScTORCULUScPORRECTUSdFLEXUScSCANDICUS FLEXUScTORCULUS RESUPINUScPES SUBPUNCTIS
cKIEVAN C CLEFdEND OF PIECEdFINAL NOTEdRECITATIVE MARKdWHOLE NOTEdHALF NOTEdQUARTER NOTE STEM DOWN
gUPdEIGHTH NOTE STEM DOWNgUPdFLAT SIGNcSORIcKORONx21aGREEK VOCAL NOTATION SYMBOL-1dSYMBOL-2
dSYMBOL-3dSYMBOL-4dSYMBOL-5dSYMBOL-6dSYMBOL-7dSYMBOL-8dSYMBOL-9dSYMBOL-10dSYMBOL-11dSYMBOL-12
dSYMBOL-13dSYMBOL-14dSYMBOL-15dSYMBOL-16dSYMBOL-17dSYMBOL-18dSYMBOL-19dSYMBOL-20dSYMBOL-21
dSYMBOL-22dSYMBOL-23dSYMBOL-24dSYMBOL-50dSYMBOL-51dSYMBOL-52dSYMBOL-53dSYMBOL-54
bINSTRUMENTAL NOTATION SYMBOL-1dSYMBOL-2dSYMBOL-4dSYMBOL-5dSYMBOL-7dSYMBOL-8dSYMBOL-11dSYMBOL-12
dSYMBOL-13dSYMBOL-14dSYMBOL-17dSYMBOL-18dSYMBOL-19dSYMBOL-23dSYMBOL-24dSYMBOL-25dSYMBOL-26
dSYMBOL-27dSYMBOL-29dSYMBOL-30dSYMBOL-32dSYMBOL-36dSYMBOL-37dSYMBOL-38dSYMBOL-39dSYMBOL-40
dSYMBOL-42dSYMBOL-43dSYMBOL-45dSYMBOL-47dSYMBOL-48dSYMBOL-49dSYMBOL-50dSYMBOL-51dSYMBOL-52
dSYMBOL-53dSYMBOL-54aCOMBINING GREEK MUSICAL TRISEMEdTETRASEMEdPENTASEMEaGREEK MUSICAL LEIMMAx154
aMAYAN NUMERAL ZEROcONEcTWOcTHREEcFOURcFIVEcSIXcSEVENcEIGHTcNINEcTENcELEVENcTWELVEcTHIRTEEN
cFOURTEENcFIFTEENcSIXTEENcSEVENTEENcEIGHTEENcNINETEENx12aMONOGRAM FOR EARTH
aDIGRAM FOR HEAVENLY EARTHcHUMAN EARTHcEARTHLY HEAVENdHUMANcEARTHaTETRAGRAM FOR CENTREcFULL CIRCLE
cMIREDcBARRIERcKEEPING SMALLcCONTRARIETYcASCENTcOPPOSITIONcBRANCHING OUT
cDEFECTIVENESS OR DISTORTIONcDIVERGENCEcYOUTHFULNESScINCREASEcPENETRATIONcREACHcCONTACT
cHOLDING BACKcWAITINGcFOLLOWINGcADVANCEcRELEASEcRESISTANCEcEASEcJOYcCONTENTIONcENDEAVOURcDUTIES
cCHANGEcDECISIVENESScBOLD RESOLUTIONcPACKINGcLEGIONcCLOSENESScKINSHIPcGATHERINGcSTRENGTHcPURITY
cFULLNESScRESIDENCEcLAW OR MODELcRESPONSEcGOING TO MEETcENCOUNTERScSTOVEcGREATNESScENLARGEMENT
cPATTERNcRITUALcFLIGHTcVASTNESS OR WASTINGcCONSTANCYcMEASUREcETERNITYcUNITYcDIMINISHMENT
cCLOSED MOUTHcGUARDEDNESScGATHERING INcMASSINGcACCUMULATIONcEMBELLISHMENTcDOUBTcWATCHcSINKINGcINNER
cDEPARTUREcDARKENINGcDIMMINGcEXHAUSTIONcSEVERANCEcSTOPPAGEcHARDNESScCOMPLETIONcCLOSUREcFAILURE
cAGGRAVATIONcCOMPLIANCEcON THE VERGEcDIFFICULTIEScLABOURINGcFOSTERINGx9aCOUNTING ROD UNIT DIGIT ONE
eTWOeTHREEeFOUReFIVEeSIXeSEVENeEIGHTeNINEcTENS DIGIT ONEeTWOeTHREEeFOUReFIVEeSIXeSEVENeEIGHTeNINE
aIDEOGRAPHIC TALLY MARK ONEdTWOdTHREEdFOURdFIVEaTALLY MARK ONEcFIVEx135aMATHEMATICAL BOLD CAPITAL A
dBdCdDdEdFdGdHdIdJdKdLdMdNdOdPdQdRdSdTdUdVdWdXdYdZcSMALL AdBdCdDdEdFdGdHdIdJdKdLdMdNdOdPdQdRdSdTdU
dVdWdXdYdZbITALIC CAPITAL AdBdCdDdEdFdGdHdIdJdKdLdMdNdOdPdQdRdSdTdUdVdWdXdYdZcSMALL AdBdCdDdEdFdGx1
dIdJdKdLdMdNdOdPdQdRdSdTdUdVdWdXdYdZbBOLD ITALIC CAPITAL AeBeCeDeEeFeGeHeIeJeKeLeMeNeOePeQeReSeTeU
eVeWeXeYeZdSMALL AeBeCeDeEeFeGeHeIeJeKeLeMeNeOePeQeReSeTeUeVeWeXeYeZbSCRIPT CAPITAL Ax1dCdDx2dGx2dJ
dKx2dNdOdPdQx1dSdTdUdVdWdXdYdZcSMALL AdBdCdDx1dFx1dHdIdJdKdLdMdNx1dPdQdRdSdTdUdVdWdXdYdZ
bBOLD SCRIPT CAPITAL AeBeCeDeEeFeGeHeIeJeKeLeMeNeOePeQeReSeTeUeVeWeXeYeZdSMALL AeBeCeDeEeFeGeHeIeJ
eKeLeMeNeOePeQeReSeTeUeVeWeXeYeZbFRAKTUR CAPITAL AdBx1dDdEdFdGx2dJdKdLdMdNdOdPdQx1dSdTdUdVdWdXdYx1
cSMALL AdBdCdDdEdFdGdHdIdJdKdLdMdNdOdPdQdRdSdTdUdVdWdXdYdZbDOUBLE-STRUCK CAPITAL AdBx1dDdEdFdGx1dI
dJdKdLdMx1dOx3dSdTdUdVdWdXdYx1cSMALL AdBdCdDdEdFdGdHdIdJdKdLdMdNdOdPdQdRdSdTdUdVdWdXdYdZ
bBOLD FRAKTUR CAPITAL AeBeCeDeEeFeGeHeIeJeKeLeMeNeOePeQeReSeTeUeVeWeXeYeZdSMALL AeBeCeDeEeFeGeHeIeJ
eKeLeMeNeOePeQeReSeTeUeVeWeXeYeZbSANS-SERIF CAPITAL AdBdCdDdEdFdGdHdIdJdKdLdMdNdOdPdQdRdSdTdUdVdWdX
dYdZcSMALL AdBdCdDdEdFdGdHdIdJdKdLdMdNdOdPdQdRdSdTdUdVdWdXdYdZcBOLD CAPITAL AeBeCeDeEeFeGeHeIeJeKeL
eMeNeOePeQeReSeTeUeVeWeXeYeZdSMALL AeBeCeDeEeFeGeHeIeJeKeLeMeNeOePeQeReSeTeUeVeWeXeYeZ
cITALIC CAPITAL AeBeCeDeEeFeGeHeIeJeKeLeMeNeOePeQeReSeTeUeVeWeXeYeZdSMALL AeBeCeDeEeFeGeHeIeJeKeLeM
eNeOePeQeReSeTeUeVeWeXeYeZcBOLD ITALIC CAPITAL AfBfCfDfEfFfGfHfIfJfKfLfMfNfOfPfQfRfSfTfUfVfWfXfYfZ
eSMALL AfBfCfDfEfFfGfHfIfJfKfLfMfNfOfPfQfRfSfTfUfVfWfXfYfZbMONOSPACE CAPITAL AdBdCdDdEdFdGdHdIdJdK
dLdMdNdOdPdQdRdSdTdUdVdWdXdYdZcSMALL AdBdCdDdEdFdGdHdIdJdKdLdMdNdOdPdQdRdSdTdUdVdWdXdYdZ
bITALIC SMALL DOTLESS IeJx2bBOLD CAPITAL ALPHAdBETAdGAMMAdDELTAdEPSILONdZETAdETAdTHETAdIOTAdKAPPA
dLAMDAdMUdNUdXIdOMICRONdPIdRHOdTHETA SYMBOLdSIGMAdTAUdUPSILONdPHIdCHIdPSIdOMEGAcNABLAcSMALL ALPHA
dBETAdGAMMAdDELTAdEPSILONdZETAdETAdTHETAdIOTAdKAPPAdLAMDAdMUdNUdXIdOMICRONdPIdRHOdFINAL SIGMAdSIGMA
dTAUdUPSILONdPHIdCHIdPSIdOMEGAcPARTIAL DIFFERENTIALcEPSILON SYMBOLcTHETA SYMBOLcKAPPA SYMBOL
cPHI SYMBOLcRHO SYMBOLcPI SYMBOLbITALIC CAPITAL ALPHAdBETAdGAMMAdDELTAdEPSILONdZETAdETAdTHETAdIOTA
dKAPPAdLAMDAdMUdNUdXIdOMICRONdPIdRHOdTHETA SYMBOLdSIGMAdTAUdUPSILONdPHIdCHIdPSIdOMEGAcNABLA
cSMALL ALPHAdBETAdGAMMAdDELTAdEPSILONdZETAdETAdTHETAdIOTAdKAPPAdLAMDAdMUdNUdXIdOMICRONdPIdRHO
dFINAL SIGMAdSIGMAdTAUdUPSILONdPHIdCHIdPSIdOMEGAcPARTIAL DIFFERENTIALcEPSILON SYMBOLcTHETA SYMBOL
cKAPPA SYMBOLcPHI SYMBOLcRHO SYMBOLcPI SYMBOLbBOLD ITALIC CAPITAL ALPHAeBETAeGAMMAeDELTAeEPSILON
eZETAeETAeTHETAeIOTAeKAPPAeLAMDAeMUeNUeXIeOMICRONePIeRHOeTHETA SYMBOLeSIGMAeTAUeUPSILONePHIeCHIePSI
eOMEGAdNABLAdSMALL ALPHAeBETAeGAMMAeDELTAeEPSILONeZETAeETAeTHETAeIOTAeKAPPAeLAMDAeMUeNUeXIeOMICRON
ePIeRHOeFINAL SIGMAeSIGMAeTAUeUPSILONePHIeCHIePSIeOMEGAdPARTIAL DIFFERENTIALdEPSILON SYMBOL
dTHETA SYMBOLdKAPPA SYMBOLdPHI SYMBOLdRHO SYMBOLdPI SYMBOLbSANS-SERIF BOLD CAPITAL ALPHAeBETAeGAMMA
eDELTAeEPSILONeZETAeETAeTHETAeIOTAeKAPPAeLAMDAeMUeNUeXIeOMICRONePIeRHOeTHETA SYMBOLeSIGMAeTAU
eUPSILONePHIeCHIePSIeOMEGAdNABLAdSMALL ALPHAeBETAeGAMMAeDELTAeEPSILONeZETAeETAeTHETAeIOTAeKAPPA
eLAMDAeMUeNUeXIeOMICRONePIeRHOeFINAL SIGMAeSIGMAeTAUeUPSILONePHIeCHIePSIeOMEGAdPARTIAL DIFFERENTIAL
dEPSILON SYMBOLdTHETA SYMBOLdKAPPA SYMBOLdPHI SYMBOLdRHO SYMBOLdPI SYMBOLdITALIC CAPITAL ALPHAfBETA
fGAMMAfDELTAfEPSILONfZETAfETAfTHETAfIOTAfKAPPAfLAMDAfMUfNUfXIfOMICRONfPIfRHOfTHETA SYMBOLfSIGMAfTAU
fUPSILONfPHIfCHIfPSIfOMEGAeNABLAeSMALL ALPHAfBETAfGAMMAfDELTAfEPSILONfZETAfETAfTHETAfIOTAfKAPPA
fLAMDAfMUfNUfXIfOMICRONfPIfRHOfFINAL SIGMAfSIGMAfTAUfUPSILONfPHIfCHIfPSIfOMEGAePARTIAL DIFFERENTIAL
eEPSILON SYMBOLeTHETA SYMBOLeKAPPA SYMBOLePHI SYMBOLeRHO SYMBOLePI SYMBOLbBOLD CAPITAL DIGAMMA
cSMALL DIGAMMAx2cDIGIT ZEROdONEdTWOdTHREEdFOURdFIVEdSIXdSEVENdEIGHTdNINEbDOUBLE-STRUCK DIGIT ZERO
dONEdTWOdTHREEdFOURdFIVEdSIXdSEVENdEIGHTdNINEbSANS-SERIF DIGIT ZEROdONEdTWOdTHREEdFOURdFIVEdSIX
dSEVENdEIGHTdNINEcBOLD DIGIT ZEROeONEeTWOeTHREEeFOUReFIVEeSIXeSEVENeEIGHTeNINEbMONOSPACE DIGIT ZERO
dONEdTWOdTHREEdFOURdFIVEdSIXdSEVENdEIGHTdNINEaSIGNWRITING HAND-FIST INDEXbHAND-CIRCLE INDEX
bHAND-CUP INDEXbHAND-OVAL INDEXbHAND-HINGE INDEXbHAND-ANGLE INDEXbHAND-FIST INDEX BENT
bHAND-CIRCLE INDEX BENTbHAND-FIST THUMB UNDER INDEX BENTcINDEX RAISED KNUCKLEdCUPPEDdHINGEDeLOW
bHAND-CIRCLE INDEX HINGEbHAND-FIST INDEX MIDDLEbHAND-CIRCLE INDEX MIDDLE
bHAND-FIST INDEX MIDDLE BENTeRAISED KNUCKLESeHINGEDdUP MIDDLE HINGEDdHINGED MIDDLE UP
dMIDDLE CONJOINEDfINDEX BENTfMIDDLE BENTfCUPPEDfHINGEDeCROSSEDbHAND-CIRCLE INDEX MIDDLE CROSSED
bHAND-FIST MIDDLE BENT OVER INDEXcINDEX BENT OVER MIDDLEdMIDDLE THUMB
bHAND-CIRCLE INDEX MIDDLE THUMBbHAND-FIST INDEX MIDDLE STRAIGHT THUMB BENTeBENT THUMB STRAIGHT
eTHUMB BENTeHINGED SPREAD THUMB SIDEdUP MIDDLE HINGED THUMB SIDEhCONJOINED
dHINGED MIDDLE UP THUMB SIDEdMIDDLE UP SPREAD THUMB FORWARDeTHUMB CUPPEDfCIRCLEDfHOOKEDfHINGED
cTHUMB BETWEEN INDEX MIDDLE STRAIGHTcINDEX MIDDLE CONJOINED THUMB SIDEhCONJOINEDhBENT
cMIDDLE THUMB HOOKED INDEX UPcINDEX THUMB HOOKED MIDDLE UPdMIDDLE CONJOINED HINGED THUMB SIDE
eCROSSED THUMB SIDEeCONJOINED THUMB FORWARDfCUPPED THUMB FORWARDcMIDDLE THUMB CUPPED INDEX UP
cINDEX THUMB CUPPED MIDDLE UPcMIDDLE THUMB CIRCLED INDEX UPgHINGEDcINDEX THUMB ANGLED OUT MIDDLE UP
fIN MIDDLE UPeCIRCLED MIDDLE UPdMIDDLE THUMB CONJOINED HINGEDfANGLED OUTfANGLED
cMIDDLE THUMB ANGLED OUT INDEX UPhCROSSEDfINDEX UPcINDEX THUMB HOOKED MIDDLE HINGED
bHAND-FLAT FOUR FINGERSeBENTeHINGEDeCONJOINEDfSPLITbHAND-CLAW FOUR FINGERS CONJOINED
bHAND-FIST FOUR FINGERS CONJOINED BENTbHAND-HINGE FOUR FINGERS CONJOINED
bHAND-FLAT FIVE FINGERS SPREADcHEEL FIVE FINGERS SPREADcFIVE FINGERS SPREAD FOUR BENT
cHEEL FIVE FINGERS SPREAD FOUR BENTcFIVE FINGERS SPREAD BENTcHEEL FIVE FINGERS SPREAD BENT
cFIVE FINGERS SPREAD THUMB FORWARDbHAND-CUP FIVE FINGERS SPREADfOPEN
bHAND-HINGE FIVE FINGERS SPREAD OPENbHAND-OVAL FIVE FINGERS SPREAD
bHAND-FLAT FIVE FINGERS SPREAD HINGEDgTHUMB SIDEgNO THUMBbHAND-FLATcBETWEEN PALM FACINGScHEEL
cTHUMB SIDEcHEEL THUMB SIDEcTHUMB BENTdFORWARDcSPLIT INDEX THUMB SIDEdCENTREeTHUMB SIDEgBENTdLITTLE
bHAND-CLAWcTHUMB SIDEcNO THUMBcTHUMB FORWARDbHAND-HOOK CURLICUEbHAND-HOOKbHAND-CUP OPENbHAND-CUP
cOPEN THUMB SIDEcTHUMB SIDEcOPEN NO THUMBcNO THUMBcOPEN THUMB FORWARDcTHUMB FORWARD
bHAND-CURLICUE OPENbHAND-CURLICUEbHAND-CIRCLEbHAND-OVALcTHUMB SIDEcNO THUMBcTHUMB FORWARD
bHAND-HINGE OPENdTHUMB FORWARDbHAND-HINGEcSMALLcOPEN THUMB SIDEcTHUMB SIDEcOPEN NO THUMBcNO THUMB
cTHUMB SIDE TOUCHING INDEXdBETWEEN MIDDLE RINGbHAND-ANGLEbHAND-FIST INDEX MIDDLE RING
bHAND-CIRCLE INDEX MIDDLE RINGbHAND-HINGE INDEX MIDDLE RINGbHAND-ANGLE INDEX MIDDLE RING
bHAND-HINGE LITTLEbHAND-FIST INDEX MIDDLE RING BENTfCONJOINED
bHAND-HINGE INDEX MIDDLE RING CONJOINEDbHAND-FIST LITTLE DOWNeRIPPLE STRAIGHTfCURVEDeOTHERS CIRCLED
dUPcTHUMB UNDER LITTLE UPbHAND-CIRCLE LITTLE UPbHAND-OVAL LITTLE UPbHAND-ANGLE LITTLE UP
bHAND-FIST LITTLE RAISED KNUCKLEdBENTdTOUCHES THUMBdTHUMBbHAND-HINGE LITTLE THUMB
bHAND-FIST LITTLE INDEX THUMBbHAND-HINGE LITTLE INDEX THUMB
bHAND-ANGLE LITTLE INDEX THUMB INDEX THUMB OUTgTHUMBbHAND-FIST LITTLE INDEX
bHAND-CIRCLE LITTLE INDEXbHAND-HINGE LITTLE INDEXbHAND-ANGLE LITTLE INDEX
bHAND-FIST INDEX MIDDLE LITTLEbHAND-CIRCLE INDEX MIDDLE LITTLEbHAND-HINGE INDEX MIDDLE LITTLEcRING
bHAND-ANGLE INDEX MIDDLE LITTLEbHAND-FIST INDEX MIDDLE CROSS LITTLE
bHAND-CIRCLE INDEX MIDDLE CROSS LITTLEbHAND-FIST RING DOWN
bHAND-HINGE RING DOWN INDEX THUMB HOOK MIDDLEbHAND-ANGLE RING DOWN MIDDLE THUMB INDEX CROSS
bHAND-FIST RING UPdRAISED KNUCKLEdLITTLEbHAND-CIRCLE RING LITTLEbHAND-OVAL RING LITTLE
bHAND-ANGLE RING LITTLEbHAND-FIST RING MIDDLEeCONJOINEDeRAISED KNUCKLESdINDEXdTHUMB
bHAND-HOOK RING THUMBbHAND-FIST INDEX RING LITTLEbHAND-CIRCLE INDEX RING LITTLE
bHAND-CURLICUE INDEX RING LITTLE ONbHAND-HOOK INDEX RING LITTLE OUTfINfUNDER
bHAND-CUP INDEX RING LITTLEbHAND-HINGE INDEX RING LITTLEbHAND-ANGLE INDEX RING LITTLE OUTeLITTLE
bHAND-FIST MIDDLE DOWNbHAND-HINGE MIDDLEbHAND-FIST MIDDLE UPbHAND-CIRCLE MIDDLE UP
bHAND-FIST MIDDLE RAISED KNUCKLEdUP THUMB SIDEbHAND-HOOK MIDDLE THUMBbHAND-FIST MIDDLE THUMB LITTLE
dLITTLEdRING LITTLEbHAND-CIRCLE MIDDLE RING LITTLEbHAND-CURLICUE MIDDLE RING LITTLE ON
bHAND-CUP MIDDLE RING LITTLEbHAND-HINGE MIDDLE RING LITTLEbHAND-ANGLE MIDDLE RING LITTLE OUTfIN
eLITTLEbHAND-CIRCLE MIDDLE RING LITTLE BENTbHAND-CLAW MIDDLE RING LITTLE CONJOINEDgSIDE
bHAND-HOOK MIDDLE RING LITTLE CONJOINED OUTgINfCONJOINEDbHAND-HINGE INDEX HINGED
bHAND-FIST INDEX THUMB SIDEbHAND-HINGE INDEX THUMB SIDEbHAND-FIST INDEX THUMB SIDE THUMB DIAGONAL
gCONJOINEDgBENTfINDEX BENTfBOTH BENTfINDEX HINGEeFORWARD INDEX STRAIGHTgBENTeHOOKeCURLICUE
eCURVE THUMB INSIDEbHAND-CLAW INDEX THUMB CURVE THUMB INSIDE
bHAND-FIST INDEX THUMB CURVE THUMB UNDEReCIRCLEbHAND-CUP INDEX THUMBeOPEN
bHAND-HINGE INDEX THUMB OPENeLARGEdTHUMBeSMALLbHAND-ANGLE INDEX THUMB OUTeINdTHUMBbHAND-FIST THUMB
dHEELdSIDE DIAGONALeCONJOINEDeBENTdFORWARDdBETWEEN INDEX MIDDLEeMIDDLE RINGeRING LITTLE
dUNDER TWO FINGERSdOVER TWO FINGERSdUNDER THREE FINGERSeFOUR FINGERSdOVER FOUR RAISED KNUCKLES
bHAND-FISTcHEELbTOUCH SINGLEcMULTIPLEcBETWEENbGRASP SINGLEcMULTIPLEcBETWEENbSTRIKE SINGLEcMULTIPLE
cBETWEENbBRUSH SINGLEcMULTIPLEcBETWEENbRUB SINGLEcMULTIPLEcBETWEENbSURFACE SYMBOLScBETWEEN
bSQUEEZE LARGE SINGLEcSMALL SINGLEcLARGE MULTIPLEcSMALL MULTIPLEcSEQUENTIALbFLICK LARGE SINGLE
cSMALL SINGLEcLARGE MULTIPLEcSMALL MULTIPLEcSEQUENTIALbSQUEEZE FLICK ALTERNATING
bMOVEMENT-HINGE UP DOWN LARGEeSMALLdSEQUENTIALcDOWN SEQUENTIALcUP DOWN ALTERNATING LARGEfSMALL
cSIDE TO SIDE SCISSORSbMOVEMENT-WALLPLANE FINGER CONTACTbMOVEMENT-FLOORPLANE FINGER CONTACT
bMOVEMENT-WALLPLANE SINGLE STRAIGHT SMALLeMEDIUMeLARGEeLARGESTdWRIST FLEXcDOUBLE STRAIGHT
dWRIST FLEXdALTERNATINGeWRIST FLEXcCROSScTRIPLE STRAIGHT MOVEMENTdWRIST FLEXdALTERNATINGeWRIST FLEX
cBEND SMALLdMEDIUMdLARGEcCORNER SMALLdMEDIUMdLARGEdROTATIONcCHECK SMALLdMEDIUMdLARGEcBOX SMALL
dMEDIUMdLARGEcZIGZAG SMALLdMEDIUMdLARGEcPEAKS SMALLdMEDIUMdLARGE
bTRAVEL-WALLPLANE ROTATION-WALLPLANE SINGLEdDOUBLEdALTERNATINGcROTATION-FLOORPLANE SINGLEdDOUBLE
dALTERNATINGcSHAKINGcARM SPIRAL SINGLEeDOUBLEeTRIPLEbMOVEMENT-DIAGONAL AWAY SMALLdMEDIUMdLARGE
dLARGESTcTOWARDS SMALLdMEDIUMdLARGEdLARGESTcBETWEEN AWAY SMALLeMEDIUMeLARGEeLARGESTdTOWARDS SMALL
eMEDIUMeLARGEeLARGESTbMOVEMENT-FLOORPLANE SINGLE STRAIGHT SMALLeMEDIUMeLARGEeLARGESTdWRIST FLEX
cDOUBLE STRAIGHTdWRIST FLEXdALTERNATINGeWRIST FLEXcCROSScTRIPLE STRAIGHT MOVEMENTdWRIST FLEX
dALTERNATING MOVEMENTeWRIST FLEXcBENDcCORNER SMALLdMEDIUMdLARGEcCHECKcBOX SMALLdMEDIUMdLARGE
cZIGZAG SMALLdMEDIUMdLARGEcPEAKS SMALLdMEDIUMdLARGEbTRAVEL-FLOORPLANE ROTATION-FLOORPLANE SINGLE
dDOUBLEdALTERNATINGcROTATION-WALLPLANE SINGLEdDOUBLEdALTERNATINGcSHAKING
bMOVEMENT-WALLPLANE CURVE QUARTER SMALLeMEDIUMeLARGEeLARGESTdHALF-CIRCLE SMALLeMEDIUMeLARGEeLARGEST
dTHREE-QUARTER CIRCLE SMALLfMEDIUMcHUMP SMALLdMEDIUMdLARGEcLOOP SMALLdMEDIUMdLARGEdSMALL DOUBLE
cWAVE CURVE DOUBLE SMALLfMEDIUMfLARGEeTRIPLE SMALLfMEDIUMfLARGEcCURVE THEN STRAIGHT
cCURVED CROSS SMALLeMEDIUMbROTATION-WALLPLANE SINGLEcDOUBLEcALTERNATEbMOVEMENT-WALLPLANE SHAKING
cCURVE HITTING FRONT WALLcHUMP HITTING FRONT WALLcLOOP HITTING FRONT WALLcWAVE HITTING FRONT WALL
bROTATION-WALLPLANE SINGLE HITTING FRONT WALLcDOUBLE HITTING FRONT WALL
cALTERNATING HITTING FRONT WALLbMOVEMENT-WALLPLANE CURVE HITTING CHESTcHUMP HITTING CHEST
cLOOP HITTING CHESTcWAVE HITTING CHESTbROTATION-WALLPLANE SINGLE HITTING CHESTcDOUBLE HITTING CHEST
cALTERNATING HITTING CHESTbMOVEMENT-WALLPLANE WAVE DIAGONAL PATH SMALLfMEDIUMfLARGE
bMOVEMENT-FLOORPLANE CURVE HITTING CEILING SMALLfLARGEcHUMP HITTING CEILING SMALL DOUBLE
fLARGE DOUBLEfSMALL TRIPLEfLARGE TRIPLEcLOOP HITTING CEILING SMALL SINGLEfLARGE SINGLEfSMALL DOUBLE
fLARGE DOUBLEcWAVE HITTING CEILING SMALLfLARGEbROTATION-FLOORPLANE SINGLE HITTING CEILING
cDOUBLE HITTING CEILINGcALTERNATING HITTING CEILINGbMOVEMENT-FLOORPLANE CURVE HITTING FLOOR SMALL
fLARGEcHUMP HITTING FLOOR SMALL DOUBLEfLARGE DOUBLEfTRIPLE SMALL TRIPLEgLARGE TRIPLE
cLOOP HITTING FLOOR SMALL SINGLEfLARGE SINGLEfSMALL DOUBLEfLARGE DOUBLEcWAVE HITTING FLOOR SMALL
fLARGEbROTATION-FLOORPLANE SINGLE HITTING FLOORcDOUBLE HITTING FLOORcALTERNATING HITTING FLOOR
bMOVEMENT-FLOORPLANE CURVE SMALLdMEDIUMdLARGEdLARGESTdCOMBINEDcHUMP SMALLcLOOP SMALLcWAVE SNAKE
dSMALLdLARGEbROTATION-FLOORPLANE SINGLEcDOUBLEcALTERNATINGbMOVEMENT-FLOORPLANE SHAKING PARALLEL
bMOVEMENT-WALLPLANE ARM CIRCLE SMALL SINGLEeMEDIUM SINGLEeSMALL DOUBLEeMEDIUM DOUBLE
bMOVEMENT-FLOORPLANE ARM CIRCLE HITTING WALL SMALL SINGLEgMEDIUM SINGLEgLARGE SINGLEgSMALL DOUBLE
gMEDIUM DOUBLEgLARGE DOUBLEbMOVEMENT-WALLPLANE WRIST CIRCLE FRONT SINGLEfDOUBLE
bMOVEMENT-FLOORPLANE WRIST CIRCLE HITTING WALL SINGLEgDOUBLE
bMOVEMENT-WALLPLANE FINGER CIRCLES SINGLEeDOUBLE
bMOVEMENT-FLOORPLANE FINGER CIRCLES HITTING WALL SINGLEgDOUBLEbDYNAMIC ARROWHEAD SMALLdLARGEcFAST
cSLOWcTENSEcRELAXEDcSIMULTANEOUSdALTERNATINGcEVERY OTHER TIMEcGRADUALbHEADcRIM
cMOVEMENT-WALLPLANE STRAIGHTdTILTcMOVEMENT-FLOORPLANE STRAIGHTcMOVEMENT-WALLPLANE CURVE
cMOVEMENT-FLOORPLANE CURVEcMOVEMENT CIRCLEbFACE DIRECTION POSITION NOSE FORWARD TILTINGfUP OR DOWN
iTILTINGbEYEBROWS STRAIGHT UPdNEUTRALdDOWNbDREAMY EYEBROWS NEUTRAL DOWNdDOWN NEUTRALdUP NEUTRAL
dNEUTRAL UPbFOREHEAD NEUTRALcCONTACTcWRINKLEDbEYES OPENcSQUEEZEDcCLOSEDbEYE BLINK SINGLEdMULTIPLE
bEYES HALF OPENcWIDE OPENcHALF CLOSEDcWIDENING MOVEMENTbEYE WINKbEYELASHES UPcDOWNcFLUTTERING
bEYEGAZE-WALLPLANE STRAIGHTdDOUBLEdALTERNATINGbEYEGAZE-FLOORPLANE STRAIGHTdDOUBLEdALTERNATING
bEYEGAZE-WALLPLANE CURVEDbEYEGAZE-FLOORPLANE CURVEDbEYEGAZE-WALLPLANE CIRCLINGbCHEEKS PUFFED
cNEUTRALcSUCKEDbTENSE CHEEKS HIGHdMIDDLEdLOWbEARSbNOSE NEUTRALcCONTACTcWRINKLEScWIGGLES
bAIR BLOWING OUTcSUCKING INcBLOW SMALL ROTATIONScSUCK SMALL ROTATIONSbBREATH INHALEcEXHALE
bMOUTH CLOSED NEUTRALdFORWARDdCONTACTcSMILEdWRINKLEDdOPENcFROWNdWRINKLEDdOPENcOPEN CIRCLEdFORWARD
dWRINKLEDdOVALeWRINKLEDeYAWNdRECTANGLEeWRINKLEDeYAWNcKISSdFORWARDdWRINKLEDcTENSEdFORWARDdSUCKED
bLIPS PRESSED TOGETHERbLIP LOWER OVER UPPERcUPPER OVER LOWERbMOUTH CORNERScWRINKLES SINGLEdDOUBLE
bTONGUE STICKING OUT FARcLICKING LIPScTIP BETWEEN LIPSdTOUCHING INSIDE MOUTHcINSIDE MOUTH RELAXED
cMOVES AGAINST CHEEKcCENTRE STICKING OUTdINSIDE MOUTHbTEETHcMOVEMENTcON TONGUEeMOVEMENTdLIPS
eMOVEMENTcBITE LIPSbMOVEMENT-WALLPLANE JAWbMOVEMENT-FLOORPLANE JAWbNECKbHAIRbEXCITEMENT
bSHOULDER HIP SPINEdPOSITIONSbWALLPLANE SHOULDER HIP MOVEbFLOORPLANE SHOULDER HIP MOVE
bSHOULDER TILTING FROM WAISTbTORSO-WALLPLANE STRAIGHT STRETCHcCURVED BENDbTORSO-FLOORPLANE TWISTING
bUPPER BODY TILTING FROM HIP JOINTSbLIMB COMBINATIONcLENGTH-1cLENGTH-2cLENGTH-3cLENGTH-4cLENGTH-5
cLENGTH-6cLENGTH-7bFINGERbLOCATION-WALLPLANE SPACEbLOCATION-FLOORPLANE SPACEbLOCATION HEIGHTcWIDTH
cDEPTHcHEAD NECKcTORSOcLIMBS DIGITSbCOMMAbFULL STOPbSEMICOLONbCOLONbPARENTHESISx15bFILL MODIFIER-2
cMODIFIER-3cMODIFIER-4cMODIFIER-5cMODIFIER-6x1bROTATION MODIFIER-2cMODIFIER-3cMODIFIER-4cMODIFIER-5
cMODIFIER-6cMODIFIER-7cMODIFIER-8cMODIFIER-9cMODIFIER-10cMODIFIER-11cMODIFIER-12cMODIFIER-13
cMODIFIER-14cMODIFIER-15cMODIFIER-16x1104aLATIN SMALL LETTER FENG DIGRAPH WITH TRILL
dREVERSED SCRIPT GbLETTER SMALL CAPITAL TURNED GbSMALL LETTER REVERSED K
bLETTER SMALL CAPITAL L WITH BELTbSMALL LETTER LEZH WITH RETROFLEX HOOKdTURNED Y WITH BELT
dREVERSED ENGdTURNED R WITH LONG LEG AND RETROFLEX HOOKdT WITH HOOK AND RETROFLEX HOOK
bLETTER RETROFLEX CLICK WITH RETROFLEX HOOKbSMALL LETTER ESH WITH DOUBLE BARhAND CURL
dTURNED T WITH CURLbLETTER INVERTED GLOTTAL STOP WITH CURLcSTRETCHED C WITH CURL
cSMALL CAPITAL TURNED KbSMALL LETTER L WITH FISHHOOKdDEZH DIGRAPH WITH PALATAL HOOK
dL WITH BELT AND PALATAL HOOKdENG WITH PALATAL HOOKdTURNED R WITH PALATAL HOOK
dR WITH FISHHOOK AND PALATAL HOOKdTESH DIGRAPH WITH PALATAL HOOKdEZH WITH PALATAL HOOK
dDEZH DIGRAPH WITH RETROFLEX HOOKdI WITH STROKE AND RETROFLEX HOOKdO WITH RETROFLEX HOOK
dTESH DIGRAPH WITH RETROFLEX HOOKdC WITH RETROFLEX HOOKdS WITH CURLx225
aCOMBINING GLAGOLITIC LETTER AZUdBUKYdVEDEdGLAGOLIdDOBROdYESTUdZHIVETEx1dZEMLJAdIZHEdINITIAL IZHEdI
dDJERVIdKAKOdLJUDIJEdMYSLITEdNASHIdONUdPOKOJIdRITSIdSLOVOdTVRIDOdUKUdFRITUdHERUx2dSHTAdTSIdCHRIVI
dSHAdYERUdYERIdYATIx1dYUdSMALL YUSx1dYOdIOTATED SMALL YUSdBIG YUSdIOTATED BIG YUSdFITAx213
aNYIAKENG PUACHUE HMONG LETTER MAeTSAeNTAeTAeHAeNAeXAeNKAeCAeLAeSAeZAeNCAeNTSAeKAeDAeNYAeNRAeVA
eNTXAeTXAeFAeRAeQAeYAeNQAePAeXYAeNPAeDLAeNPLAeHAHeMLAePLAeGAeRRAeAeAAeIeUeOeOOeEeEEeWx3dTONE-B
dTONE-MdTONE-JdTONE-VdTONE-SdTONE-GdTONE-DdSIGN FOR PERSONfTHINGfLOCATIONfANIMALfINVERTEBRATEeXW XW
dSYLLABLE LENGTHENERx2dDIGIT ZEROeONEeTWOeTHREEeFOUReFIVEeSIXeSEVENeEIGHTeNINEx4dLOGOGRAM NYAJ
dCIRCLED CAx320aTOTO LETTER PAcBAcTAcDAcKAcGAcMAcNAcNGAcSAcCHAcYAcWAcJAcHAcRAcLAcIcBREATHY IcIU
cBREATHY IUcUcEcBREATHY EcEOcBREATHY EOcOcAEcBREATHY AEcAbSIGN RISING TONEx17aWANCHO LETTER AAcAcBA
cCAcDAcGAcYAcPHAcLAcNAcPAcTAcTHAcFAcSAcSHAcJAcZAcWAcVAcKAcOcAUcRAcMAcKHAcHAcEcIcNGAcUcLLHAcTSAcTRA
cONGcAANGcANGcINGcONcENcAANcNYAcUENcYIHbTONE TUPcTUPNIcKOIcKOINIbDIGIT ZEROcONEcTWOcTHREEcFOURcFIVE
cSIXcSEVENcEIGHTcNINEx5bNGUN SIGNx1248aETHIOPIC SYLLABLE HHYAcHHYUcHHYIcHHYAAcHHYEEcHHYEcHHYOx1
cGURAGE HHWAcHHWIcHHWEEcHHWEx1cGURAGE MWIdMWEEx1dQWIdQWEEdQWEdBWIdBWEEdKWIdKWEEdKWEdGWIdGWEEdGWE
dFWIdFWEEdPWIdPWEEx1aMENDE KIKAKUI SYLLABLE M001 KIdM002 KAdM003 KUdM065 KEEdM095 KEdM076 KOO
dM048 KOdM179 KUAdM004 WIdM005 WAdM006 WUdM126 WEEdM118 WEdM114 WOOdM045 WOdM194 WUIdM143 WEI
dM061 WVIdM049 WVAdM139 WVEdM007 MINdM008 MANdM009 MUNdM059 MENdM094 MONdM154 MUANdM189 MUEN
dM010 BIdM011 BAdM012 BUdM150 BEEdM097 BEdM103 BOOdM138 BOdM013 IdM014 AdM015 UdM163 EEdM100 E
dM165 OOdM147 OdM137 EIdM131 INdM135 INdM195 ANdM178 ENdM019 SIdM020 SAdM021 SUdM162 SEEdM116 SE
dM136 SOOdM079 SOdM196 SIAdM025 LIdM026 LAdM027 LUdM084 LEEdM073 LEdM054 LOOdM153 LOdM110 LONG LE
dM016 DIdM017 DAdM018 DUdM089 DEEdM180 DOOdM181 DOdM022 TIdM023 TAdM024 TUdM091 TEEdM055 TE
dM104 TOOdM069 TOdM028 JIdM029 JAdM030 JUdM157 JEEdM113 JEdM160 JOOdM063 JOdM175 LONG JOdM031 YI
dM032 YAdM033 YUdM109 YEEdM080 YEdM141 YOOdM121 YOdM034 FIdM035 FAdM036 FUdM078 FEEdM075 FE
dM133 FOOdM088 FOdM197 FUAdM101 FANdM037 NINdM038 NANdM039 NUNdM117 NENdM169 NONdM176 HIdM041 HA
dM186 HUdM040 HEEdM096 HEdM042 HOOdM140 HOdM083 HEEIdM128 HOOUdM053 HINdM130 HANdM087 HUNdM052 HEN
dM193 HONdM046 HUANdM090 NGGIdM043 NGGAdM082 NGGUdM115 NGGEEdM146 NGGEdM156 NGGOOdM120 NGGO
dM159 NGGAAdM127 NGGUAdM086 LONG NGGEdM106 LONG NGGOOdM183 LONG NGGOdM155 GIdM111 GAdM168 GU
dM190 GEEdM166 GUEIdM167 GUANdM184 NGENdM057 NGONdM177 NGUANdM068 PIdM099 PAdM050 PUdM081 PEE
dM051 PEdM102 POOdM066 POdM145 MBIdM062 MBAdM122 MBUdM047 MBEEdM188 MBEEdM072 MBEdM172 MBOO
dM174 MBOdM187 MBUUdM161 LONG MBEdM105 LONG MBOOdM142 LONG MBOdM132 KPIdM092 KPAdM074 KPUdM044 KPEE
dM108 KPEdM112 KPOOdM158 KPOdM124 GBIdM056 GBAdM148 GBUdM093 GBEEdM107 GBEdM071 GBOOdM070 GBO
dM171 RAdM123 NDIdM129 NDAdM125 NDUdM191 NDEEdM119 NDEdM067 NDOOdM064 NDOdM152 NJAdM192 NJU
dM149 NJEEdM134 NJOOdM182 VIdM185 VAdM151 VUdM173 VEEdM085 VEdM144 VOOdM077 VOdM164 NYINdM058 NYAN
dM170 NYUNdM098 NYENdM060 NYONx2cDIGIT ONEdTWOdTHREEdFOURdFIVEdSIXdSEVENdEIGHTdNINE
cCOMBINING NUMBER TEENSeTENSeHUNDREDSeTHOUSANDSeTEN THOUSANDSeHUNDRED THOUSANDSeMILLIONSx41
aADLAM CAPITAL LETTER ALIFdDAALIdLAAMdMIIMdBAdSINNYIIYHEdPEdBHEdRAdEdFAdIdOdDHAdYHEdWAWdNUNdKAFdYA
dUdJIIMdCHIdHAdQAAFdGAdNYAdTUdNHAdVAdKHAdGBEdZALdKPOdSHAbSMALL LETTER ALIFdDAALIdLAAMdMIIMdBA
dSINNYIIYHEdPEdBHEdRAdEdFAdIdOdDHAdYHEdWAWdNUNdKAFdYAdUdJIIMdCHIdHAdQAAFdGAdNYAdTUdNHAdVAdKHAdGBE
dZALdKPOdSHAbALIF LENGTHENERbVOWEL LENGTHENERbGEMINATION MARKbHAMZAbCONSONANT MODIFIER
bGEMINATE CONSONANT MODIFIERbNUKTAbNASALIZATION MARKx4bDIGIT ZEROcONEcTWOcTHREEcFOURcFIVEcSIXcSEVEN
cEIGHTcNINEx4bINITIAL EXCLAMATION MARKcQUESTION MARKx785aINDIC SIYAQ NUMBER ONEdTWOdTHREEdFOURdFIVE
dSIXdSEVENdEIGHTdNINEdTENdTWENTYdTHIRTYdFORTYdFIFTYdSIXTYdSEVENTYdEIGHTYdNINETYdONE HUNDRED
dTWO HUNDREDdTHREE HUNDREDdFOUR HUNDREDdFIVE HUNDREDdSIX HUNDREDdSEVEN HUNDREDdEIGHT HUNDRED
dNINE HUNDREDdONE THOUSANDdTWO THOUSANDdTHREE THOUSANDdFOUR THOUSANDdFIVE THOUSANDdSIX THOUSAND
dSEVEN THOUSANDdEIGHT THOUSANDdNINE THOUSANDdTEN THOUSANDdTWENTY THOUSANDdTHIRTY THOUSAND
dFORTY THOUSANDdFIFTY THOUSANDdSIXTY THOUSANDdSEVENTY THOUSANDdEIGHTY THOUSANDdNINETY THOUSANDdLAKH
dLAKHANcLAKH MARKcNUMBER KARORdKARORANdPREFIXED ONEeTWOeTHREEeFOUReFIVEeSIXeSEVENeEIGHTeNINE
cPLACEHOLDERcFRACTION ONE QUARTEReHALFdTHREE QUARTERScRUPEE MARKcNUMBER ALTERNATE ONEeTWO
eTEN THOUSANDcALTERNATE LAKH MARKx76aOTTOMAN SIYAQ NUMBER ONEdTWOdTHREEdFOURdFIVEdSIXdSEVENdEIGHT
dNINEdTENdTWENTYdTHIRTYdFORTYdFIFTYdSIXTYdSEVENTYdEIGHTYdNINETYdONE HUNDREDdTWO HUNDRED
dTHREE HUNDREDdFOUR HUNDREDdFIVE HUNDREDdSIX HUNDREDdSEVEN HUNDREDdEIGHT HUNDREDdNINE HUNDRED
dONE THOUSANDdTWO THOUSANDdTHREE THOUSANDdFOUR THOUSANDdFIVE THOUSANDdSIX THOUSANDdSEVEN THOUSAND
dEIGHT THOUSANDdNINE THOUSANDdTEN THOUSANDdTWENTY THOUSANDdTHIRTY THOUSANDdFORTY THOUSAND
dFIFTY THOUSANDdSIXTY THOUSANDdSEVENTY THOUSANDdEIGHTY THOUSANDdNINETY THOUSANDcMARRATAN
cALTERNATE NUMBER TWOeTHREEeFOUReFIVEeSIXeSEVENeEIGHTeNINEeTENeFOUR HUNDREDeSIX HUNDRED
eTWO THOUSANDeTEN THOUSANDcFRACTION ONE HALFeSIXTHx194aARABIC MATHEMATICAL ALEFcBEHcJEEMcDALx1cWAW
cZAINcHAHcTAHcYEHcKAFcLAMcMEEMcNOONcSEENcAINcFEHcSADcQAFcREHcSHEENcTEHcTHEHcKHAHcTHALcDADcZAHcGHAIN
cDOTLESS BEHdNOONdFEHdQAFx1cINITIAL BEHdJEEMx1dHEHx2dHAHx1dYEHdKAFdLAMdMEEMdNOONdSEENdAINdFEHdSAD
dQAFx1dSHEENdTEHdTHEHdKHAHx1dDADx1dGHAINx6cTAILED JEEMx4dHAHx1dYEHx1dLAMx1dNOONdSEENdAINx1dSADdQAF
x1dSHEENx2dKHAHx1dDADx1dGHAINx1dDOTLESS NOONx1eQAFx1cSTRETCHED BEHdJEEMx1dHEHx2dHAHdTAHdYEHdKAFx1
dMEEMdNOONdSEENdAINdFEHdSADdQAFx1dSHEENdTEHdTHEHdKHAHx1dDADdZAHdGHAINdDOTLESS BEHx1eFEHx1
cLOOPED ALEFdBEHdJEEMdDALdHEHdWAWdZAINdHAHdTAHdYEHx1dLAMdMEEMdNOONdSEENdAINdFEHdSADdQAFdREHdSHEEN
dTEHdTHEHdKHAHdTHALdDADdZAHdGHAINx5cDOUBLE-STRUCK BEHdJEEMdDALx1dWAWdZAINdHAHdTAHdYEHx1dLAMdMEEM
dNOONdSEENdAINdFEHdSADdQAFdREHdSHEENdTEHdTHEHdKHAHdTHALdDADdZAHdGHAINx52
cOPERATOR MEEM WITH HAH WITH TATWEELdHAH WITH DALx270aMAHJONG TILE EAST WINDcSOUTH WINDcWEST WIND
cNORTH WINDcRED DRAGONcGREEN DRAGONcWHITE DRAGONcONE OF CHARACTERScTWO OF CHARACTERS
cTHREE OF CHARACTERScFOUR OF CHARACTERScFIVE OF CHARACTERScSIX OF CHARACTERScSEVEN OF CHARACTERS
cEIGHT OF CHARACTERScNINE OF CHARACTERScONE OF BAMBOOScTWO OF BAMBOOScTHREE OF BAMBOOS
cFOUR OF BAMBOOScFIVE OF BAMBOOScSIX OF BAMBOOScSEVEN OF BAMBOOScEIGHT OF BAMBOOScNINE OF BAMBOOS
cONE OF CIRCLEScTWO OF CIRCLEScTHREE OF CIRCLEScFOUR OF CIRCLEScFIVE OF CIRCLEScSIX OF CIRCLES
cSEVEN OF CIRCLEScEIGHT OF CIRCLEScNINE OF CIRCLEScPLUMcORCHIDcBAMBOOcCHRYSANTHEMUMcSPRINGcSUMMER
cAUTUMNcWINTERcJOKERcBACKx4aDOMINO TILE HORIZONTAL BACKcHORIZONTAL-00-00cHORIZONTAL-00-01
cHORIZONTAL-00-02cHORIZONTAL-00-03cHORIZONTAL-00-04cHORIZONTAL-00-05cHORIZONTAL-00-06
cHORIZONTAL-01-00cHORIZONTAL-01-01cHORIZONTAL-01-02cHORIZONTAL-01-03cHORIZONTAL-01-04
cHORIZONTAL-01-05cHORIZONTAL-01-06cHORIZONTAL-02-00cHORIZONTAL-02-01cHORIZONTAL-02-02
cHORIZONTAL-02-03cHORIZONTAL-02-04cHORIZONTAL-02-05cHORIZONTAL-02-06cHORIZONTAL-03-00
cHORIZONTAL-03-01cHORIZONTAL-03-02cHORIZONTAL-03-03cHORIZONTAL-03-04cHORIZONTAL-03-05
cHORIZONTAL-03-06cHORIZONTAL-04-00cHORIZONTAL-04-01cHORIZONTAL-04-02cHORIZONTAL-04-03
cHORIZONTAL-04-04cHORIZONTAL-04-05cHORIZONTAL-04-06cHORIZONTAL-05-00cHORIZONTAL-05-01
cHORIZONTAL-05-02cHORIZONTAL-05-03cHORIZONTAL-05-04cHORIZONTAL-05-05cHORIZONTAL-05-06
cHORIZONTAL-06-00cHORIZONTAL-06-01cHORIZONTAL-06-02cHORIZONTAL-06-03cHORIZONTAL-06-04
cHORIZONTAL-06-05cHORIZONTAL-06-06cVERTICAL BACKcVERTICAL-00-00cVERTICAL-00-01cVERTICAL-00-02
cVERTICAL-00-03cVERTICAL-00-04cVERTICAL-00-05cVERTICAL-00-06cVERTICAL-01-00cVERTICAL-01-01
cVERTICAL-01-02cVERTICAL-01-03cVERTICAL-01-04cVERTICAL-01-05cVERTICAL-01-06cVERTICAL-02-00
cVERTICAL-02-01cVERTICAL-02-02cVERTICAL-02-03cVERTICAL-02-04cVERTICAL-02-05cVERTICAL-02-06
cVERTICAL-03-00cVERTICAL-03-01cVERTICAL-03-02cVERTICAL-03-03cVERTICAL-03-04cVERTICAL-03-05
cVERTICAL-03-06cVERTICAL-04-00cVERTICAL-04-01cVERTICAL-04-02cVERTICAL-04-03cVERTICAL-04-04
cVERTICAL-04-05cVERTICAL-04-06cVERTICAL-05-00cVERTICAL-05-01cVERTICAL-05-02cVERTICAL-05-03
cVERTICAL-05-04cVERTICAL-05-05cVERTICAL-05-06cVERTICAL-06-00cVERTICAL-06-01cVERTICAL-06-02
cVERTICAL-06-03cVERTICAL-06-04cVERTICAL-06-05cVERTICAL-06-06x12aPLAYING CARD BACKcACE OF SPADES
cTWO OF SPADEScTHREE OF SPADEScFOUR OF SPADEScFIVE OF SPADEScSIX OF SPADEScSEVEN OF SPADES
cEIGHT OF SPADEScNINE OF SPADEScTEN OF SPADEScJACK OF SPADEScKNIGHT OF SPADEScQUEEN OF SPADES
cKING OF SPADESx2cACE OF HEARTScTWO OF HEARTScTHREE OF HEARTScFOUR OF HEARTScFIVE OF HEARTS
cSIX OF HEARTScSEVEN OF HEARTScEIGHT OF HEARTScNINE OF HEARTScTEN OF HEARTScJACK OF HEARTS
cKNIGHT OF HEARTScQUEEN OF HEARTScKING OF HEARTScRED JOKERx1cACE OF DIAMONDScTWO OF DIAMONDS
cTHREE OF DIAMONDScFOUR OF DIAMONDScFIVE OF DIAMONDScSIX OF DIAMONDScSEVEN OF DIAMONDS
cEIGHT OF DIAMONDScNINE OF DIAMONDScTEN OF DIAMONDScJACK OF DIAMONDScKNIGHT OF DIAMONDS
cQUEEN OF DIAMONDScKING OF DIAMONDScBLACK JOKERx1cACE OF CLUBScTWO OF CLUBScTHREE OF CLUBS
cFOUR OF CLUBScFIVE OF CLUBScSIX OF CLUBScSEVEN OF CLUBScEIGHT OF CLUBScNINE OF CLUBScTEN OF CLUBS
cJACK OF CLUBScKNIGHT OF CLUBScQUEEN OF CLUBScKING OF CLUBScWHITE JOKERcFOOLcTRUMP-1cTRUMP-2
cTRUMP-3cTRUMP-4cTRUMP-5cTRUMP-6cTRUMP-7cTRUMP-8cTRUMP-9cTRUMP-10cTRUMP-11cTRUMP-12cTRUMP-13
cTRUMP-14cTRUMP-15cTRUMP-16cTRUMP-17cTRUMP-18cTRUMP-19cTRUMP-20cTRUMP-21x10aDIGIT ZERO FULL STOP
cCOMMAbONE COMMAbTWO COMMAbTHREE COMMAbFOUR COMMAbFIVE COMMAbSIX COMMAbSEVEN COMMAbEIGHT COMMA
bNINE COMMAaDINGBAT CIRCLED SANS-SERIF DIGIT ZERObNEGATIVE CIRCLED SANS-SERIF DIGIT ZERO
aCIRCLED ZERO WITH SLASHbANTICLOCKWISE ARROWbDOLLAR SIGN WITH OVERLAID BACKSLASH
aPARENTHESIZED LATIN CAPITAL LETTER AeBeCeDeEeFeGeHeIeJeKeLeMeNeOePeQeReSeTeUeVeWeXeYeZ
aTORTOISE SHELL BRACKETED LATIN CAPITAL LETTER SaCIRCLED ITALIC LATIN CAPITAL LETTER CfRbCDbWZ
aCOPYLEFT SYMBOLaSQUARED LATIN CAPITAL LETTER AeBeCeDeEeFeGeHeIeJeKeLeMeNeOePeQeReSeTeUeVeWeXeYeZ
bHVbMVbSDbSSbPPVbWCaNEGATIVE CIRCLED LATIN CAPITAL LETTER AfBfCfDfEfFfGfHfIfJfKfLfMfNfOfPfQfRfSfTfU
fVfWfXfYfZaRAISED MC SIGNbMD SIGNbMR SIGNaCIRCLED CCbC WITH OVERLAID BACKSLASHbHUMAN FIGURE
aNEGATIVE SQUARED LATIN CAPITAL LETTER AfBfCfDfEfFfGfHfIfJfKfLfMfNfOfPfQfRfSfTfUfVfWfXfYfZ
aCROSSED NEGATIVE SQUARED LATIN CAPITAL LETTER PaNEGATIVE SQUARED ICcPAcSAcABcWCaSQUARE DJ
aSQUARED CLbCOOLbFREEbIDbNEWbNGbOKbSOSbUP WITH EXCLAMATION MARKbVSbTHREE DbSECOND SCREENbTWO K
bFOUR KbEIGHT KbFIVE POINT ONEbSEVEN POINT ONEbTWENTY-TWO POINT TWObSIXTY PbONE HUNDRED TWENTY P
bLATIN SMALL LETTER DbHCbHDRbHI-RESbLOSSLESSbSHVbUHDbVODaMASK WORK SYMBOLx56
aREGIONAL INDICATOR SYMBOL LETTER AeBeCeDeEeFeGeHeIeJeKeLeMeNeOePeQeReSeTeUeVeWeXeYeZ
aSQUARE HIRAGANA HOKAaSQUARED KATAKANA KOKOcSAx13bCJK UNIFIED IDEOGRAPH-624BdIDEOGRAPH-5B57
dIDEOGRAPH-53CCbKATAKANA DEbCJK UNIFIED IDEOGRAPH-4E8CdIDEOGRAPH-591AdIDEOGRAPH-89E3dIDEOGRAPH-5929
dIDEOGRAPH-4EA4dIDEOGRAPH-6620dIDEOGRAPH-7121dIDEOGRAPH-6599dIDEOGRAPH-524DdIDEOGRAPH-5F8C
dIDEOGRAPH-518DdIDEOGRAPH-65B0dIDEOGRAPH-521DdIDEOGRAPH-7D42dIDEOGRAPH-751FdIDEOGRAPH-8CA9
dIDEOGRAPH-58F0dIDEOGRAPH-5439dIDEOGRAPH-6F14dIDEOGRAPH-6295dIDEOGRAPH-6355dIDEOGRAPH-4E00
dIDEOGRAPH-4E09dIDEOGRAPH-904AdIDEOGRAPH-5DE6dIDEOGRAPH-4E2DdIDEOGRAPH-53F3dIDEOGRAPH-6307
dIDEOGRAPH-8D70dIDEOGRAPH-6253dIDEOGRAPH-7981dIDEOGRAPH-7A7AdIDEOGRAPH-5408dIDEOGRAPH-6E80
dIDEOGRAPH-6709dIDEOGRAPH-6708dIDEOGRAPH-7533dIDEOGRAPH-5272dIDEOGRAPH-55B6dIDEOGRAPH-914Dx4
aTORTOISE SHELL BRACKETED CJK UNIFIED IDEOGRAPH-672CfIDEOGRAPH-4E09fIDEOGRAPH-4E8CfIDEOGRAPH-5B89
fIDEOGRAPH-70B9fIDEOGRAPH-6253fIDEOGRAPH-76D7fIDEOGRAPH-52DDfIDEOGRAPH-6557x7
aCIRCLED IDEOGRAPH ADVANTAGEcACCEPTx14aROUNDED SYMBOL FOR FUdLUdSHOUdXIdSHUANGXIdCAIx154aCYCLONE
aFOGGYaCLOSED UMBRELLAaNIGHT WITH STARSaSUNRISE OVER MOUNTAINSaSUNRISEaCITYSCAPE AT DUSK
aSUNSET OVER BUILDINGSaRAINBOWaBRIDGE AT NIGHTaWATER WAVEaVOLCANOaMILKY WAY
aEARTH GLOBE EUROPE-AFRICAcAMERICAScASIA-AUSTRALIAaGLOBE WITH MERIDIANSaNEW MOON SYMBOL
aWAXING CRESCENT MOON SYMBOLaFIRST QUARTER MOON SYMBOLaWAXING GIBBOUS MOON SYMBOLaFULL MOON SYMBOL
aWANING GIBBOUS MOON SYMBOLaLAST QUARTER MOON SYMBOLaWANING CRESCENT MOON SYMBOLaCRESCENT MOON
aNEW MOON WITH FACEaFIRST QUARTER MOON WITH FACEaLAST QUARTER MOON WITH FACEaFULL MOON WITH FACE
aSUN WITH FACEaGLOWING STARaSHOOTING STARaTHERMOMETERaBLACK DROPLETaWHITE SUNcWITH SMALL CLOUD
cBEHIND CLOUDeWITH RAINaCLOUD WITH RAINcSNOWcLIGHTNINGcTORNADOaFOGaWIND BLOWING FACEaHOT DOGaTACO
aBURRITOaCHESTNUTaSEEDLINGaEVERGREEN TREEaDECIDUOUS TREEaPALM TREEaCACTUSaHOT PEPPERaTULIP
aCHERRY BLOSSOMaROSEaHIBISCUSaSUNFLOWERaBLOSSOMaEAR OF MAIZEcRICEaHERBaFOUR LEAF CLOVERaMAPLE LEAF
aFALLEN LEAFaLEAF FLUTTERING IN WINDaMUSHROOMaTOMATOaAUBERGINEaGRAPESaMELONaWATERMELONaTANGERINE
aLEMONaBANANAaPINEAPPLEaRED APPLEaGREEN APPLEaPEARaPEACHaCHERRIESaSTRAWBERRYaHAMBURGER
aSLICE OF PIZZAaMEAT ON BONEaPOULTRY LEGaRICE CRACKERbBALLaCOOKED RICEaCURRY AND RICEaSTEAMING BOWL
aSPAGHETTIaBREADaFRENCH FRIESaROASTED SWEET POTATOaDANGOaODENaSUSHIaFRIED SHRIMP
aFISH CAKE WITH SWIRL DESIGNaSOFT ICE CREAMaSHAVED ICEaICE CREAMaDOUGHNUTaCOOKIEaCHOCOLATE BAR
aCANDYaLOLLIPOPaCUSTARDaHONEY POTaSHORTCAKEaBENTO BOXaPOT OF FOODaCOOKINGaFORK AND KNIFE
aTEACUP WITHOUT HANDLEaSAKE BOTTLE AND CUPaWINE GLASSaCOCKTAIL GLASSaTROPICAL DRINKaBEER MUG
aCLINKING BEER MUGSaBABY BOTTLEaFORK AND KNIFE WITH PLATEaBOTTLE WITH POPPING CORKaPOPCORNaRIBBON
aWRAPPED PRESENTaBIRTHDAY CAKEaJACK-O-LANTERNaCHRISTMAS TREEaFATHER CHRISTMASaFIREWORKS
aFIREWORK SPARKLERaBALLOONaPARTY POPPERaCONFETTI BALLaTANABATA TREEaCROSSED FLAGSaPINE DECORATION
aJAPANESE DOLLSaCARP STREAMERaWIND CHIMEaMOON VIEWING CEREMONYaSCHOOL SATCHELaGRADUATION CAP
aHEART WITH TIP ON THE LEFTaBOUQUET OF FLOWERSaMILITARY MEDALaREMINDER RIBBON
aMUSICAL KEYBOARD WITH JACKSaSTUDIO MICROPHONEaLEVEL SLIDERaCONTROL KNOBS
aBEAMED ASCENDING MUSICAL NOTESbDESCENDING MUSICAL NOTESaFILM FRAMESaADMISSION TICKETS
aCAROUSEL HORSEaFERRIS WHEELaROLLER COASTERaFISHING POLE AND FISHaMICROPHONEaMOVIE CAMERAaCINEMA
aHEADPHONEaARTIST PALETTEaTOP HATaCIRCUS TENTaTICKETaCLAPPER BOARDaPERFORMING ARTSaVIDEO GAME
aDIRECT HITaSLOT MACHINEaBILLIARDSaGAME DIEaBOWLINGaFLOWER PLAYING CARDSaMUSICAL NOTE
aMULTIPLE MUSICAL NOTESaSAXOPHONEaGUITARaMUSICAL KEYBOARDaTRUMPETaVIOLINaMUSICAL SCORE
aRUNNING SHIRT WITH SASHaTENNIS RACQUET AND BALLaSKI AND SKI BOOTaBASKETBALL AND HOOP
aCHEQUERED FLAGaSNOWBOARDERaRUNNERaSURFERaSPORTS MEDALaTROPHYaHORSE RACINGaAMERICAN FOOTBALL
aRUGBY FOOTBALLaSWIMMERaWEIGHT LIFTERaGOLFERaRACING MOTORCYCLEbCARaCRICKET BAT AND BALLaVOLLEYBALL
aFIELD HOCKEY STICK AND BALLaICE HOCKEY STICK AND PUCKaTABLE TENNIS PADDLE AND BALL
aSNOW CAPPED MOUNTAINaCAMPINGaBEACH WITH UMBRELLAaBUILDING CONSTRUCTIONaHOUSE BUILDINGSaCITYSCAPE
aDERELICT HOUSE BUILDINGaCLASSICAL BUILDINGaDESERTbISLANDaNATIONAL PARKaSTADIUMaHOUSE BUILDING
bWITH GARDENaOFFICE BUILDINGaJAPANESE POST OFFICEaEUROPEAN POST OFFICEaHOSPITALaBANK
aAUTOMATED TELLER MACHINEaHOTELaLOVE HOTELaCONVENIENCE STOREaSCHOOLaDEPARTMENT STOREaFACTORY
aIZAKAYA LANTERNaJAPANESE CASTLEaEUROPEAN CASTLEaWHITE PENNANTaBLACK PENNANTaWAVING WHITE FLAG
bBLACK FLAGaROSETTEaBLACK ROSETTEaLABELaBADMINTON RACQUET AND SHUTTLECOCKaBOW AND ARROWaAMPHORA
aEMOJI MODIFIER FITZPATRICK TYPE-1-2dTYPE-3dTYPE-4dTYPE-5dTYPE-6aRATaMOUSEaOXaWATER BUFFALOaCOW
aTIGERaLEOPARDaRABBITaCATaDRAGONaCROCODILEaWHALEaSNAILaSNAKEaHORSEaRAMaGOATaSHEEPaMONKEYaROOSTER
aCHICKENaDOGaPIGaBOARaELEPHANTaOCTOPUSaSPIRAL SHELLaBUGaANTaHONEYBEEaLADY BEETLEaFISHaTROPICAL FISH
aBLOWFISHaTURTLEaHATCHING CHICKaBABY CHICKaFRONT-FACING BABY CHICKaBIRDaPENGUINaKOALAaPOODLE
aDROMEDARY CAMELaBACTRIAN CAMELaDOLPHINaMOUSE FACEaCOW FACEaTIGER FACEaRABBIT FACEaCAT FACE
aDRAGON FACEaSPOUTING WHALEaHORSE FACEaMONKEY FACEaDOG FACEaPIG FACEaFROG FACEaHAMSTER FACE
aWOLF FACEaBEAR FACEaPANDA FACEaPIG NOSEaPAW PRINTSaCHIPMUNKaEYESaEYEaEARaNOSEaMOUTHaTONGUE
aWHITE UP POINTING BACKHAND INDEXbDOWN POINTING BACKHAND INDEXbLEFT POINTING BACKHAND INDEX
bRIGHT POINTING BACKHAND INDEXaFISTED HAND SIGNaWAVING HAND SIGNaOK HAND SIGNaTHUMBS UP SIGN
bDOWN SIGNaCLAPPING HANDS SIGNaOPEN HANDS SIGNaCROWNaWOMANS HATaEYEGLASSESaNECKTIEaT-SHIRTaJEANS
aDRESSaKIMONOaBIKINIaWOMANS CLOTHESaPURSEaHANDBAGaPOUCHaMANS SHOEaATHLETIC SHOEaHIGH-HEELED SHOE
aWOMANS SANDALbBOOTSaFOOTPRINTSaBUST IN SILHOUETTEaBUSTS IN SILHOUETTEaBOYaGIRLaMANaWOMANaFAMILY
aMAN AND WOMAN HOLDING HANDSaTWO MEN HOLDING HANDSbWOMEN HOLDING HANDSaPOLICE OFFICER
aWOMAN WITH BUNNY EARSaBRIDE WITH VEILaPERSON WITH BLOND HAIRaMAN WITH GUA PI MAOcTURBANaOLDER MAN
bWOMANaBABYaCONSTRUCTION WORKERaPRINCESSaJAPANESE OGREbGOBLINaGHOSTaBABY ANGEL
aEXTRATERRESTRIAL ALIENaALIEN MONSTERaIMPaSKULLaINFORMATION DESK PERSONaGUARDSMANaDANCERaLIPSTICK
aNAIL POLISHaFACE MASSAGEaHAIRCUTaBARBER POLEaSYRINGEaPILLaKISS MARKaLOVE LETTERaRINGaGEM STONE
aKISSaBOUQUETaCOUPLE WITH HEARTaWEDDINGaBEATING HEARTaBROKEN HEARTaTWO HEARTSaSPARKLING HEART
aGROWING HEARTaHEART WITH ARROWaBLUE HEARTaGREEN HEARTaYELLOW HEARTaPURPLE HEARTaHEART WITH RIBBON
aREVOLVING HEARTSaHEART DECORATIONaDIAMOND SHAPE WITH A DOT INSIDEaELECTRIC LIGHT BULBaANGER SYMBOL
aBOMBaSLEEPING SYMBOLaCOLLISION SYMBOLaSPLASHING SWEAT SYMBOLaDROPLETaDASH SYMBOLaPILE OF POO
aFLEXED BICEPSaDIZZY SYMBOLaSPEECH BALLOONaTHOUGHT BALLOONaWHITE FLOWERaHUNDRED POINTS SYMBOL
aMONEY BAGaCURRENCY EXCHANGEaHEAVY DOLLAR SIGNaCREDIT CARDaBANKNOTE WITH YEN SIGNcDOLLAR SIGN
cEURO SIGNcPOUND SIGNaMONEY WITH WINGSaCHART WITH UPWARDS TREND AND YEN SIGNaSEATaPERSONAL COMPUTER
aBRIEFCASEaMINIDISCaFLOPPY DISKaOPTICAL DISCaDVDaFILE FOLDERaOPEN FILE FOLDERaPAGE WITH CURL
bFACING UPaCALENDARaTEAR-OFF CALENDARaCARD INDEXaCHART WITH UPWARDS TRENDcDOWNWARDS TRENDaBAR CHART
aCLIPBOARDaPUSHPINaROUND PUSHPINaPAPERCLIPaSTRAIGHT RULERaTRIANGULAR RULERaBOOKMARK TABSaLEDGER
aNOTEBOOKbWITH DECORATIVE COVERaCLOSED BOOKaOPEN BOOKaGREEN BOOKaBLUE BOOKaORANGE BOOKaBOOKS
aNAME BADGEaSCROLLaMEMOaTELEPHONE RECEIVERaPAGERaFAX MACHINEaSATELLITE ANTENNA
aPUBLIC ADDRESS LOUDSPEAKERaCHEERING MEGAPHONEaOUTBOX TRAYaINBOX TRAYaPACKAGEaE-MAIL SYMBOL
aINCOMING ENVELOPEaENVELOPE WITH DOWNWARDS ARROW ABOVEaCLOSED MAILBOX WITH LOWERED FLAGdRAISED FLAG
aOPEN MAILBOX WITH RAISED FLAGdLOWERED FLAGaPOSTBOXaPOSTAL HORNaNEWSPAPERaMOBILE PHONE
cWITH RIGHTWARDS ARROW AT LEFTaVIBRATION MODEaMOBILE PHONE OFFaNO MOBILE PHONESaANTENNA WITH BARS
aCAMERAbWITH FLASHaVIDEO CAMERAaTELEVISIONaRADIOaVIDEOCASSETTEaFILM PROJECTORaPORTABLE STEREO
aPRAYER BEADSaTWISTED RIGHTWARDS ARROWSaCLOCKWISE RIGHTWARDS AND LEFTWARDS OPEN CIRCLE ARROWS
hWITH CIRCLED ONE OVERLAYbDOWNWARDS AND UPWARDS OPEN CIRCLE ARROWS
aANTICLOCKWISE DOWNWARDS AND UPWARDS OPEN CIRCLE ARROWSaLOW BRIGHTNESS SYMBOL
aHIGH BRIGHTNESS SYMBOLaSPEAKER WITH CANCELLATION STROKEaSPEAKERbWITH ONE SOUND WAVE
cTHREE SOUND WAVESaBATTERYaELECTRIC PLUGaLEFT-POINTING MAGNIFYING GLASS
aRIGHT-POINTING MAGNIFYING GLASSaLOCK WITH INK PENaCLOSED LOCK WITH KEYaKEYaLOCKaOPEN LOCKaBELL
bWITH CANCELLATION STROKEaBOOKMARKaLINK SYMBOLaRADIO BUTTONaBACK WITH LEFTWARDS ARROW ABOVE
aEND WITH LEFTWARDS ARROW ABOVEaON WITH EXCLAMATION MARK WITH LEFT RIGHT ARROW ABOVE
aSOON WITH RIGHTWARDS ARROW ABOVEaTOP WITH UPWARDS ARROW ABOVEaNO ONE UNDER EIGHTEEN SYMBOL
aKEYCAP TENaINPUT SYMBOL FOR LATIN CAPITAL LETTERSeSMALL LETTERSdNUMBERSdSYMBOLSdLATIN LETTERSaFIRE
aELECTRIC TORCHaWRENCHaHAMMERaNUT AND BOLTaHOCHOaPISTOLaMICROSCOPEaTELESCOPEaCRYSTAL BALL
aSIX POINTED STAR WITH MIDDLE DOTaJAPANESE SYMBOL FOR BEGINNERaTRIDENT EMBLEMaBLACK SQUARE BUTTON
aWHITE SQUARE BUTTONaLARGE RED CIRCLEbBLUE CIRCLEbORANGE DIAMONDbBLUE DIAMONDaSMALL ORANGE DIAMOND
bBLUE DIAMONDaUP-POINTING RED TRIANGLEaDOWN-POINTING RED TRIANGLEaUP-POINTING SMALL RED TRIANGLE
aDOWN-POINTING SMALL RED TRIANGLEaLOWER RIGHT SHADOWED WHITE CIRCLE
aUPPER RIGHT SHADOWED WHITE CIRCLEaCIRCLED CROSS POMMEEaCROSS POMMEE WITH HALF-CIRCLE BELOWbPOMMEE
aNOTCHED LEFT SEMICIRCLE WITH THREE DOTSbRIGHT SEMICIRCLE WITH THREE DOTSaSYMBOL FOR MARKS CHAPTER
aWHITE LATIN CROSSaHEAVY LATIN CROSSaCELTIC CROSSaOM SYMBOLaDOVE OF PEACEaKAABAaMOSQUEaSYNAGOGUE
aMENORAH WITH NINE BRANCHESaBOWL OF HYGIEIAaCLOCK FACE ONE OCLOCKcTWO OCLOCKcTHREE OCLOCK
cFOUR OCLOCKcFIVE OCLOCKcSIX OCLOCKcSEVEN OCLOCKcEIGHT OCLOCKcNINE OCLOCKcTEN OCLOCKcELEVEN OCLOCK
cTWELVE OCLOCKcONE-THIRTYcTWO-THIRTYcTHREE-THIRTYcFOUR-THIRTYcFIVE-THIRTYcSIX-THIRTYcSEVEN-THIRTY
cEIGHT-THIRTYcNINE-THIRTYcTEN-THIRTYcELEVEN-THIRTYcTWELVE-THIRTYaRIGHT SPEAKERcWITH ONE SOUND WAVE
dTHREE SOUND WAVESaBULLHORNbWITH SOUND WAVESaRINGING BELLaBOOKaCANDLEaMANTELPIECE CLOCK
aBLACK SKULL AND CROSSBONESaNO PIRACYaHOLEaMAN IN BUSINESS SUIT LEVITATINGaSLEUTH OR SPY
aDARK SUNGLASSESaSPIDERbWEBaJOYSTICKaMAN DANCINGaLEFT HAND TELEPHONE RECEIVER
aTELEPHONE RECEIVER WITH PAGEaRIGHT HAND TELEPHONE RECEIVERaWHITE TOUCHTONE TELEPHONE
aBLACK TOUCHTONE TELEPHONEaTELEPHONE ON TOP OF MODEMaCLAMSHELL MOBILE PHONEaBACK OF ENVELOPE
aSTAMPED ENVELOPEaENVELOPE WITH LIGHTNINGaFLYING ENVELOPEaPEN OVER STAMPED ENVELOPE
aLINKED PAPERCLIPSaBLACK PUSHPINaLOWER LEFT PENCILcBALLPOINT PENcFOUNTAIN PENcPAINTBRUSHcCRAYON
aLEFT WRITING HANDaTURNED OK HAND SIGNaRAISED HAND WITH FINGERS SPLAYED
aREVERSED RAISED HAND WITH FINGERS SPLAYEDbTHUMBS UP SIGNcDOWN SIGNbVICTORY HAND
bHAND WITH MIDDLE FINGER EXTENDEDaRAISED HAND WITH PART BETWEEN MIDDLE AND RING FINGERS
aWHITE DOWN POINTING LEFT HAND INDEXaSIDEWAYS WHITE LEFT POINTING INDEXcRIGHT POINTING INDEX
bBLACK LEFT POINTING INDEXcRIGHT POINTING INDEXaBLACK LEFT POINTING BACKHAND INDEX
bRIGHT POINTING BACKHAND INDEXaSIDEWAYS WHITE UP POINTING INDEXcDOWN POINTING INDEX
bBLACK UP POINTING INDEXcDOWN POINTING INDEXaBLACK UP POINTING BACKHAND INDEX
bDOWN POINTING BACKHAND INDEXbHEARTaDESKTOP COMPUTERaKEYBOARD AND MOUSEaTHREE NETWORKED COMPUTERS
aPRINTERaPOCKET CALCULATORaBLACK HARD SHELL FLOPPY DISKaWHITE HARD SHELL FLOPPY DISK
aSOFT SHELL FLOPPY DISKaTAPE CARTRIDGEaWIRED KEYBOARDaONE BUTTON MOUSEaTWO BUTTON MOUSE
aTHREE BUTTON MOUSEaTRACKBALLaOLD PERSONAL COMPUTERaHARD DISKaSCREENaPRINTER ICONaFAX ICON
aOPTICAL DISC ICONaDOCUMENT WITH TEXTdAND PICTUREcPICTUREaFRAME WITH PICTUREcTILEScAN X
aBLACK FOLDERaFOLDERaOPEN FOLDERaCARD INDEX DIVIDERSbFILE BOXaFILE CABINETaEMPTY NOTEcPAGEcPADaNOTE
bPAGEbPADaEMPTY DOCUMENTbPAGEbPAGESaDOCUMENTaPAGEaPAGESaWASTEBASKETaSPIRAL NOTE PADbCALENDAR PAD
aDESKTOP WINDOWaMINIMIZEaMAXIMIZEaOVERLAPaCLOCKWISE RIGHT AND LEFT SEMICIRCLE ARROWSaCANCELLATION X
aINCREASE FONT SIZE SYMBOLaDECREASE FONT SIZE SYMBOLaCOMPRESSIONaOLD KEYaROLLED-UP NEWSPAPER
aPAGE WITH CIRCLED TEXTaSTOCK CHARTaDAGGER KNIFEaLIPSaSPEAKING HEAD IN SILHOUETTEaTHREE RAYS ABOVE
cBELOWcLEFTcRIGHTaLEFT SPEECH BUBBLEaRIGHT SPEECH BUBBLEaTWO SPEECH BUBBLESaTHREE SPEECH BUBBLES
aLEFT THOUGHT BUBBLEaRIGHT THOUGHT BUBBLEaLEFT ANGER BUBBLEaRIGHT ANGER BUBBLEaMOOD BUBBLE
aLIGHTNING MOOD BUBBLEbMOODaBALLOT BOX WITH BALLOTbSCRIPT XbBOX WITH SCRIPT XbBOLD SCRIPT X
bBOX WITH BOLD SCRIPT XaLIGHT CHECK MARKaBALLOT BOX WITH BOLD CHECKaWORLD MAPaMOUNT FUJI
aTOKYO TOWERaSTATUE OF LIBERTYaSILHOUETTE OF JAPANaMOYAIaGRINNING FACEcWITH SMILING EYES
aFACE WITH TEARS OF JOYaSMILING FACE WITH OPEN MOUTHfAND SMILING EYESgCOLD SWEAT
gTIGHTLY-CLOSED EYESdHALOdHORNSaWINKING FACEaSMILING FACE WITH SMILING EYES
aFACE SAVOURING DELICIOUS FOODaRELIEVED FACEaSMILING FACE WITH HEART-SHAPED EYESdSUNGLASSES
aSMIRKING FACEaNEUTRAL FACEaEXPRESSIONLESS FACEaUNAMUSED FACEaFACE WITH COLD SWEATaPENSIVE FACE
aCONFUSED FACEaCONFOUNDED FACEaKISSING FACEaFACE THROWING A KISSaKISSING FACE WITH SMILING EYES
dCLOSED EYESaFACE WITH STUCK-OUT TONGUEeAND WINKING EYEfTIGHTLY-CLOSED EYESaDISAPPOINTED FACE
aWORRIED FACEaANGRY FACEaPOUTING FACEaCRYING FACEaPERSEVERING FACEaFACE WITH LOOK OF TRIUMPH
aDISAPPOINTED BUT RELIEVED FACEaFROWNING FACE WITH OPEN MOUTHaANGUISHED FACEaFEARFUL FACE
aWEARY FACEaSLEEPY FACEaTIRED FACEaGRIMACING FACEaLOUDLY CRYING FACEaFACE WITH OPEN MOUTH
aHUSHED FACEaFACE WITH OPEN MOUTH AND COLD SWEATbSCREAMING IN FEARaASTONISHED FACEaFLUSHED FACE
aSLEEPING FACEaDIZZY FACEaFACE WITHOUT MOUTHbWITH MEDICAL MASKaGRINNING CAT FACE WITH SMILING EYES
aCAT FACE WITH TEARS OF JOYaSMILING CAT FACE WITH OPEN MOUTHeHEART-SHAPED EYES
aCAT FACE WITH WRY SMILEaKISSING CAT FACE WITH CLOSED EYESaPOUTING CAT FACEaCRYING CAT FACE
aWEARY CAT FACEaSLIGHTLY FROWNING FACEbSMILING FACEaUPSIDE-DOWN FACEaFACE WITH ROLLING EYES
cNO GOOD GESTUREcOK GESTUREaPERSON BOWING DEEPLYaSEE-NO-EVIL MONKEYaHEAR-NO-EVIL MONKEY
aSPEAK-NO-EVIL MONKEYaHAPPY PERSON RAISING ONE HANDaPERSON RAISING BOTH HANDS IN CELEBRATION
bFROWNINGbWITH POUTING FACEcFOLDED HANDSaNORTH WEST POINTING LEAFaSOUTH WEST POINTING LEAF
aNORTH EAST POINTING LEAFaSOUTH EAST POINTING LEAFaTURNED NORTH WEST POINTING LEAF
bSOUTH WEST POINTING LEAFbNORTH EAST POINTING LEAFbSOUTH EAST POINTING LEAF
aNORTH WEST POINTING VINE LEAFaSOUTH WEST POINTING VINE LEAFaNORTH EAST POINTING VINE LEAF
aSOUTH EAST POINTING VINE LEAFaHEAVY NORTH WEST POINTING VINE LEAFbSOUTH WEST POINTING VINE LEAF
bNORTH EAST POINTING VINE LEAFbSOUTH EAST POINTING VINE LEAFaNORTH WEST POINTING BUD
aSOUTH WEST POINTING BUDaNORTH EAST POINTING BUDaSOUTH EAST POINTING BUD
aHEAVY NORTH WEST POINTING BUDbSOUTH WEST POINTING BUDbNORTH EAST POINTING BUD
bSOUTH EAST POINTING BUDaHOLLOW QUILT SQUARE ORNAMENTeIN BLACK SQUAREaSOLID QUILT SQUARE ORNAMENT
eIN BLACK SQUAREaLEFTWARDS ROCKETaUPWARDS ROCKETaRIGHTWARDS ROCKETaDOWNWARDS ROCKET
aSCRIPT LIGATURE ET ORNAMENTaHEAVY SCRIPT LIGATURE ET ORNAMENTaLIGATURE OPEN ET ORNAMENT
aHEAVY LIGATURE OPEN ET ORNAMENTbAMPERSAND ORNAMENTaSWASH AMPERSAND ORNAMENT
aSANS-SERIF HEAVY DOUBLE TURNED COMMA QUOTATION MARK ORNAMENTdCOMMA QUOTATION MARK ORNAMENT
cLOW DOUBLE COMMA QUOTATION MARK ORNAMENTaHEAVY INTERROBANG ORNAMENT
aSANS-SERIF INTERROBANG ORNAMENTaHEAVY SANS-SERIF INTERROBANG ORNAMENTaVERY HEAVY SOLIDUS
cREVERSE SOLIDUSaCHECKER BOARDaREVERSE CHECKER BOARDaROCKETaHELICOPTERaSTEAM LOCOMOTIVEaRAILWAY CAR
aHIGH-SPEED TRAINcWITH BULLET NOSEaTRAINaMETROaLIGHT RAILaSTATIONaTRAMbCARaBUSaONCOMING BUS
aTROLLEYBUSaBUS STOPaMINIBUSaAMBULANCEaFIRE ENGINEaPOLICE CARaONCOMING POLICE CARaTAXI
aONCOMING TAXIaAUTOMOBILEaONCOMING AUTOMOBILEaRECREATIONAL VEHICLEaDELIVERY TRUCKaARTICULATED LORRY
aTRACTORaMONORAILaMOUNTAIN RAILWAYaSUSPENSION RAILWAYaMOUNTAIN CABLEWAYaAERIAL TRAMWAYaSHIPaROWBOAT
aSPEEDBOATaHORIZONTAL TRAFFIC LIGHTaVERTICAL TRAFFIC LIGHTaCONSTRUCTION SIGN
aPOLICE CARS REVOLVING LIGHTaTRIANGULAR FLAG ON POSTaDOORaNO ENTRY SIGNaSMOKING SYMBOL
aNO SMOKING SYMBOLaPUT LITTER IN ITS PLACE SYMBOLaDO NOT LITTER SYMBOLaPOTABLE WATER SYMBOL
aNON-POTABLE WATER SYMBOLaBICYCLEaNO BICYCLESaBICYCLISTaMOUNTAIN BICYCLISTaPEDESTRIAN
aNO PEDESTRIANSaCHILDREN CROSSINGaMENS SYMBOLaWOMENS SYMBOLaRESTROOMaBABY SYMBOLaTOILET
aWATER CLOSETaSHOWERaBATHaBATHTUBaPASSPORT CONTROLaCUSTOMSaBAGGAGE CLAIMaLEFT LUGGAGE
aTRIANGLE WITH ROUNDED CORNERSaPROHIBITED SIGNaCIRCLED INFORMATION SOURCEaBOYS SYMBOLaGIRLS SYMBOL
aCOUCH AND LAMPaSLEEPING ACCOMMODATIONaSHOPPING BAGSaBELLHOP BELLaBEDaPLACE OF WORSHIP
aOCTAGONAL SIGNaSHOPPING TROLLEYaSTUPAaPAGODAaHINDU TEMPLEaHUTaELEVATORx5aPLAYGROUND SLIDEaWHEEL
aRING BUOYaHAMMER AND WRENCHaSHIELDaOIL DRUMaMOTORWAYaRAILWAY TRACKaMOTOR BOAT
aUP-POINTING MILITARY AIRPLANEbAIRPLANEbSMALL AIRPLANEaSMALL AIRPLANEaNORTHEAST-POINTING AIRPLANE
aAIRPLANE DEPARTUREbARRIVINGx3aSATELLITEaONCOMING FIRE ENGINEaDIESEL LOCOMOTIVEaPASSENGER SHIP
aSCOOTERaMOTOR SCOOTERaCANOEaSLEDaFLYING SAUCERaSKATEBOARDaAUTO RICKSHAWaPICKUP TRUCKaROLLER SKATE
x3aALCHEMICAL SYMBOL FOR QUINTESSENCEdAIRdFIREdEARTHdWATERdAQUAFORTISdAQUA REGIAeREGIA-2eVITAE
eVITAE-2dVINEGARdVINEGAR-2dVINEGAR-3dSULFURdPHILOSOPHERS SULFURdBLACK SULFURdMERCURY SUBLIMATE
eSUBLIMATE-2eSUBLIMATE-3dCINNABARdSALTdNITREdVITRIOLdVITRIOL-2dROCK SALTeSALT-2dGOLDdSILVER
dIRON OREeORE-2dCROCUS OF IRONdREGULUS OF IRONdCOPPER OREdIRON-COPPER OREdSUBLIMATE OF COPPER
dCROCUS OF COPPERfCOPPER-2dCOPPER ANTIMONIATEdSALT OF COPPER ANTIMONIATE
dSUBLIMATE OF SALT OF COPPERdVERDIGRISdTIN OREdLEAD OREdANTIMONY OREdSUBLIMATE OF ANTIMONY
dSALT OF ANTIMONYdSUBLIMATE OF SALT OF ANTIMONYdVINEGAR OF ANTIMONYdREGULUS OF ANTIMONYfANTIMONY-2
dREGULUSdREGULUS-2dREGULUS-3dREGULUS-4dALKALIdALKALI-2dMARCASITEdSAL-AMMONIACdARSENICdREALGAR
dREALGAR-2dAURIPIGMENTdBISMUTH OREdTARTARdTARTAR-2dQUICK LIMEdBORAXdBORAX-2dBORAX-3dALUMdOILdSPIRIT
dTINCTUREdGUMdWAXdPOWDERdCALXdTUTTYdCAPUT MORTUUMdSCEPTER OF JOVEdCADUCEUSdTRIDENTdSTARRED TRIDENT
dLODESTONEdSOAPdURINEdHORSE DUNGdASHESdPOT ASHESdBRICKdPOWDERED BRICKdAMALGAMdSTRATUM SUPER STRATUM
fSTRATUM-2dSUBLIMATIONdPRECIPITATEdDISTILLdDISSOLVEdDISSOLVE-2dPURIFYdPUTREFACTIONdCRUCIBLE
dCRUCIBLE-2dCRUCIBLE-3dCRUCIBLE-4dCRUCIBLE-5dALEMBICdBATH OF MARYfVAPOURSdRETORTdHOURdNIGHT
dDAY-NIGHTdMONTHdHALF DRAMeOUNCEx12aBLACK LEFT-POINTING ISOSCELES RIGHT TRIANGLE
bUP-POINTING ISOSCELES RIGHT TRIANGLEbRIGHT-POINTING ISOSCELES RIGHT TRIANGLE
bDOWN-POINTING ISOSCELES RIGHT TRIANGLEbSLIGHTLY SMALL CIRCLEaMEDIUM BOLD WHITE CIRCLE
aBOLD WHITE CIRCLEaHEAVY WHITE CIRCLEaVERY HEAVY WHITE CIRCLEaEXTREMELY HEAVY WHITE CIRCLE
aWHITE CIRCLE CONTAINING BLACK SMALL CIRCLEaROUND TARGETaBLACK TINY SQUAREbSLIGHTLY SMALL SQUARE
aLIGHT WHITE SQUAREaMEDIUM WHITE SQUAREaBOLD WHITE SQUAREaHEAVY WHITE SQUARE
aVERY HEAVY WHITE SQUAREaEXTREMELY HEAVY WHITE SQUARE
aWHITE SQUARE CONTAINING BLACK VERY SMALL SQUAREeMEDIUM SQUAREaSQUARE TARGETaBLACK TINY DIAMOND
bVERY SMALL DIAMONDbMEDIUM SMALL DIAMONDaWHITE DIAMOND CONTAINING BLACK VERY SMALL DIAMOND
eMEDIUM DIAMONDaDIAMOND TARGETaBLACK TINY LOZENGEbVERY SMALL LOZENGEbMEDIUM SMALL LOZENGE
aWHITE LOZENGE CONTAINING BLACK SMALL LOZENGEaTHIN GREEK CROSSaLIGHT GREEK CROSSaMEDIUM GREEK CROSS
aBOLD GREEK CROSSaVERY BOLD GREEK CROSSbHEAVY GREEK CROSSaEXTREMELY HEAVY GREEK CROSSaTHIN SALTIRE
aLIGHT SALTIREaMEDIUM SALTIREaBOLD SALTIREaHEAVY SALTIREaVERY HEAVY SALTIREaEXTREMELY HEAVY SALTIRE
aLIGHT FIVE SPOKED ASTERISKaMEDIUM FIVE SPOKED ASTERISKaBOLD FIVE SPOKED ASTERISK
aHEAVY FIVE SPOKED ASTERISKaVERY HEAVY FIVE SPOKED ASTERISKaEXTREMELY HEAVY FIVE SPOKED ASTERISK
aLIGHT SIX SPOKED ASTERISKaMEDIUM SIX SPOKED ASTERISKaBOLD SIX SPOKED ASTERISK
aHEAVY SIX SPOKED ASTERISKaVERY HEAVY SIX SPOKED ASTERISKaEXTREMELY HEAVY SIX SPOKED ASTERISK
aLIGHT EIGHT SPOKED ASTERISKaMEDIUM EIGHT SPOKED ASTERISKaBOLD EIGHT SPOKED ASTERISK
aHEAVY EIGHT SPOKED ASTERISKaVERY HEAVY EIGHT SPOKED ASTERISKaLIGHT THREE POINTED BLACK STAR
aMEDIUM THREE POINTED BLACK STARaTHREE POINTED BLACK STARaMEDIUM THREE POINTED PINWHEEL STAR
aLIGHT FOUR POINTED BLACK STARaMEDIUM FOUR POINTED BLACK STARaFOUR POINTED BLACK STAR
aMEDIUM FOUR POINTED PINWHEEL STARaREVERSE LIGHT FOUR POINTED PINWHEEL STAR
aLIGHT FIVE POINTED BLACK STARaHEAVY FIVE POINTED BLACK STARaMEDIUM SIX POINTED BLACK STAR
aHEAVY SIX POINTED BLACK STARaSIX POINTED PINWHEEL STARaMEDIUM EIGHT POINTED BLACK STAR
aHEAVY EIGHT POINTED BLACK STARaVERY HEAVY EIGHT POINTED BLACK STAR
aHEAVY EIGHT POINTED PINWHEEL STARaLIGHT TWELVE POINTED BLACK STARaHEAVY TWELVE POINTED BLACK STAR
dPINWHEEL STARaCIRCLED TRIANGLEaNEGATIVE CIRCLED TRIANGLEaCIRCLED SQUAREaNEGATIVE CIRCLED SQUAREx7
aLARGE ORANGE CIRCLEbYELLOW CIRCLEbGREEN CIRCLEbPURPLE CIRCLEbBROWN CIRCLEbRED SQUAREbBLUE SQUARE
bORANGE SQUAREbYELLOW SQUAREbGREEN SQUAREbPURPLE SQUAREbBROWN SQUAREx4aHEAVY EQUALS SIGNx15
aLEFTWARDS ARROW WITH SMALL TRIANGLE ARROWHEADaUPWARDS ARROW WITH SMALL TRIANGLE ARROWHEAD
aRIGHTWARDS ARROW WITH SMALL TRIANGLE ARROWHEADaDOWNWARDS ARROW WITH SMALL TRIANGLE ARROWHEAD
aLEFTWARDS ARROW WITH MEDIUM TRIANGLE ARROWHEADaUPWARDS ARROW WITH MEDIUM TRIANGLE ARROWHEAD
aRIGHTWARDS ARROW WITH MEDIUM TRIANGLE ARROWHEADaDOWNWARDS ARROW WITH MEDIUM TRIANGLE ARROWHEAD
aLEFTWARDS ARROW WITH LARGE TRIANGLE ARROWHEADaUPWARDS ARROW WITH LARGE TRIANGLE ARROWHEAD
aRIGHTWARDS ARROW WITH LARGE TRIANGLE ARROWHEADaDOWNWARDS ARROW WITH LARGE TRIANGLE ARROWHEADx4
aLEFTWARDS ARROW WITH SMALL EQUILATERAL ARROWHEADaUPWARDS ARROW WITH SMALL EQUILATERAL ARROWHEAD
aRIGHTWARDS ARROW WITH SMALL EQUILATERAL ARROWHEADaDOWNWARDS ARROW WITH SMALL EQUILATERAL ARROWHEAD
aLEFTWARDS ARROW WITH EQUILATERAL ARROWHEADaUPWARDS ARROW WITH EQUILATERAL ARROWHEAD
aRIGHTWARDS ARROW WITH EQUILATERAL ARROWHEADaDOWNWARDS ARROW WITH EQUILATERAL ARROWHEAD
aHEAVY LEFTWARDS ARROW WITH EQUILATERAL ARROWHEADbUPWARDS ARROW WITH EQUILATERAL ARROWHEAD
bRIGHTWARDS ARROW WITH EQUILATERAL ARROWHEADbDOWNWARDS ARROW WITH EQUILATERAL ARROWHEAD
bLEFTWARDS ARROW WITH LARGE EQUILATERAL ARROWHEADbUPWARDS ARROW WITH LARGE EQUILATERAL ARROWHEAD
bRIGHTWARDS ARROW WITH LARGE EQUILATERAL ARROWHEADbDOWNWARDS ARROW WITH LARGE EQUILATERAL ARROWHEAD
aLEFTWARDS TRIANGLE-HEADED ARROW WITH NARROW SHAFTaUPWARDS TRIANGLE-HEADED ARROW WITH NARROW SHAFT
aRIGHTWARDS TRIANGLE-HEADED ARROW WITH NARROW SHAFT
aDOWNWARDS TRIANGLE-HEADED ARROW WITH NARROW SHAFT
aLEFTWARDS TRIANGLE-HEADED ARROW WITH MEDIUM SHAFTaUPWARDS TRIANGLE-HEADED ARROW WITH MEDIUM SHAFT
aRIGHTWARDS TRIANGLE-HEADED ARROW WITH MEDIUM SHAFT
aDOWNWARDS TRIANGLE-HEADED ARROW WITH MEDIUM SHAFTaLEFTWARDS TRIANGLE-HEADED ARROW WITH BOLD SHAFT
aUPWARDS TRIANGLE-HEADED ARROW WITH BOLD SHAFTaRIGHTWARDS TRIANGLE-HEADED ARROW WITH BOLD SHAFT
aDOWNWARDS TRIANGLE-HEADED ARROW WITH BOLD SHAFTaLEFTWARDS TRIANGLE-HEADED ARROW WITH HEAVY SHAFT
aUPWARDS TRIANGLE-HEADED ARROW WITH HEAVY SHAFTaRIGHTWARDS TRIANGLE-HEADED ARROW WITH HEAVY SHAFT
aDOWNWARDS TRIANGLE-HEADED ARROW WITH HEAVY SHAFT
aLEFTWARDS TRIANGLE-HEADED ARROW WITH VERY HEAVY SHAFT
aUPWARDS TRIANGLE-HEADED ARROW WITH VERY HEAVY SHAFT
aRIGHTWARDS TRIANGLE-HEADED ARROW WITH VERY HEAVY SHAFT
aDOWNWARDS TRIANGLE-HEADED ARROW WITH VERY HEAVY SHAFTaLEFTWARDS FINGER-POST ARROW
aUPWARDS FINGER-POST ARROWaRIGHTWARDS FINGER-POST ARROWaDOWNWARDS FINGER-POST ARROW
aLEFTWARDS SQUARED ARROWaUPWARDS SQUARED ARROWaRIGHTWARDS SQUARED ARROWaDOWNWARDS SQUARED ARROW
aLEFTWARDS COMPRESSED ARROWaUPWARDS COMPRESSED ARROWaRIGHTWARDS COMPRESSED ARROW
aDOWNWARDS COMPRESSED ARROWaLEFTWARDS HEAVY COMPRESSED ARROWaUPWARDS HEAVY COMPRESSED ARROW
aRIGHTWARDS HEAVY COMPRESSED ARROWaDOWNWARDS HEAVY COMPRESSED ARROWaLEFTWARDS HEAVY ARROW
aUPWARDS HEAVY ARROWaRIGHTWARDS HEAVY ARROWaDOWNWARDS HEAVY ARROWx8aLEFTWARDS SANS-SERIF ARROW
aUPWARDS SANS-SERIF ARROWaRIGHTWARDS SANS-SERIF ARROWaDOWNWARDS SANS-SERIF ARROW
aNORTH WEST SANS-SERIF ARROWbEAST SANS-SERIF ARROWaSOUTH EAST SANS-SERIF ARROW
bWEST SANS-SERIF ARROWaLEFT RIGHT SANS-SERIF ARROWaUP DOWN SANS-SERIF ARROWx6
aWIDE-HEADED LEFTWARDS LIGHT BARB ARROWbUPWARDS LIGHT BARB ARROWbRIGHTWARDS LIGHT BARB ARROW
bDOWNWARDS LIGHT BARB ARROWbNORTH WEST LIGHT BARB ARROWcEAST LIGHT BARB ARROW
bSOUTH EAST LIGHT BARB ARROWcWEST LIGHT BARB ARROWbLEFTWARDS BARB ARROWbUPWARDS BARB ARROW
bRIGHTWARDS BARB ARROWbDOWNWARDS BARB ARROWbNORTH WEST BARB ARROWcEAST BARB ARROW
bSOUTH EAST BARB ARROWcWEST BARB ARROWbLEFTWARDS MEDIUM BARB ARROWbUPWARDS MEDIUM BARB ARROW
bRIGHTWARDS MEDIUM BARB ARROWbDOWNWARDS MEDIUM BARB ARROWbNORTH WEST MEDIUM BARB ARROW
cEAST MEDIUM BARB ARROWbSOUTH EAST MEDIUM BARB ARROWcWEST MEDIUM BARB ARROW
bLEFTWARDS HEAVY BARB ARROWbUPWARDS HEAVY BARB ARROWbRIGHTWARDS HEAVY BARB ARROW
bDOWNWARDS HEAVY BARB ARROWbNORTH WEST HEAVY BARB ARROWcEAST HEAVY BARB ARROW
bSOUTH EAST HEAVY BARB ARROWcWEST HEAVY BARB ARROWbLEFTWARDS VERY HEAVY BARB ARROW
bUPWARDS VERY HEAVY BARB ARROWbRIGHTWARDS VERY HEAVY BARB ARROWbDOWNWARDS VERY HEAVY BARB ARROW
bNORTH WEST VERY HEAVY BARB ARROWcEAST VERY HEAVY BARB ARROWbSOUTH EAST VERY HEAVY BARB ARROW
cWEST VERY HEAVY BARB ARROWx8aLEFTWARDS TRIANGLE ARROWHEADaUPWARDS TRIANGLE ARROWHEAD
aRIGHTWARDS TRIANGLE ARROWHEADaDOWNWARDS TRIANGLE ARROWHEAD
aLEFTWARDS WHITE ARROW WITHIN TRIANGLE ARROWHEADaUPWARDS WHITE ARROW WITHIN TRIANGLE ARROWHEAD
aRIGHTWARDS WHITE ARROW WITHIN TRIANGLE ARROWHEADaDOWNWARDS WHITE ARROW WITHIN TRIANGLE ARROWHEAD
aLEFTWARDS ARROW WITH NOTCHED TAILaUPWARDS ARROW WITH NOTCHED TAIL
aRIGHTWARDS ARROW WITH NOTCHED TAILaDOWNWARDS ARROW WITH NOTCHED TAILaHEAVY ARROW SHAFT WIDTH ONE
eTWO THIRDSeONE HALFfTHIRDaLEFTWARDS BOTTOM-SHADED WHITE ARROWaRIGHTWARDS BOTTOM SHADED WHITE ARROW
aLEFTWARDS TOP SHADED WHITE ARROWaRIGHTWARDS TOP SHADED WHITE ARROW
aLEFTWARDS LEFT-SHADED WHITE ARROWaRIGHTWARDS RIGHT-SHADED WHITE ARROW
aLEFTWARDS RIGHT-SHADED WHITE ARROWaRIGHTWARDS LEFT-SHADED WHITE ARROW
aLEFTWARDS BACK-TILTED SHADOWED WHITE ARROWaRIGHTWARDS BACK-TILTED SHADOWED WHITE ARROW
aLEFTWARDS FRONT-TILTED SHADOWED WHITE ARROWaRIGHTWARDS FRONT-TILTED SHADOWED WHITE ARROW
aWHITE ARROW SHAFT WIDTH ONEeTWO THIRDSx2aARROW POINTING UPWARDS THEN NORTH WEST
cRIGHTWARDS THEN CURVING SOUTH WESTx78aCIRCLED CROSS FORMEE WITH FOUR DOTSeTWO DOTScFORMEE
aLEFT HALF CIRCLE WITH FOUR DOTSeTHREE DOTSeTWO DOTSeDOTcCIRCLEaDOWNWARD FACING HOOKcNOTCHED HOOK
cHOOK WITH DOTcNOTCHED HOOK WITH DOTaPINCHED FINGERSaWHITE HEARTaBROWN HEARTaPINCHING HAND
aZIPPER-MOUTH FACEaMONEY-MOUTH FACEaFACE WITH THERMOMETERaNERD FACEaTHINKING FACE
aFACE WITH HEAD-BANDAGEaROBOT FACEaHUGGING FACEaSIGN OF THE HORNSaCALL ME HANDaRAISED BACK OF HAND
aLEFT-FACING FISTaRIGHT-FACING FISTaHANDSHAKEaHAND WITH INDEX AND MIDDLE FINGERS CROSSED
aI LOVE YOU HAND SIGNaFACE WITH COWBOY HATaCLOWN FACEaNAUSEATED FACEaROLLING ON THE FLOOR LAUGHING
aDROOLING FACEaLYING FACEaFACE PALMaSNEEZING FACEaFACE WITH ONE EYEBROW RAISED
aGRINNING FACE WITH STAR EYESdONE LARGE AND ONE SMALL EYEaFACE WITH FINGER COVERING CLOSED LIPS
aSERIOUS FACE WITH SYMBOLS COVERING MOUTHaSMILING FACE WITH SMILING EYES AND HAND COVERING MOUTH
aFACE WITH OPEN MOUTH VOMITINGaSHOCKED FACE WITH EXPLODING HEADaPREGNANT WOMANaBREAST-FEEDING
aPALMS UP TOGETHERaSELFIEaPRINCEaMAN IN TUXEDOaMOTHER CHRISTMASaSHRUGaPERSON DOING CARTWHEEL
aJUGGLINGaFENCERaMODERN PENTATHLONaWRESTLERSaWATER POLOaHANDBALLaDIVING MASKaWILTED FLOWER
aDRUM WITH DRUMSTICKSaCLINKING GLASSESaTUMBLER GLASSaSPOONaGOAL NETaRIFLEaFIRST PLACE MEDAL
aSECOND PLACE MEDALaTHIRD PLACE MEDALaBOXING GLOVEaMARTIAL ARTS UNIFORMaCURLING STONE
aLACROSSE STICK AND BALLaSOFTBALLaFLYING DISCaCROISSANTaAVOCADOaCUCUMBERaBACONaPOTATOaCARROT
aBAGUETTE BREADaGREEN SALADaSHALLOW PAN OF FOODaSTUFFED FLATBREADaEGGaGLASS OF MILKaPEANUTS
aKIWIFRUITaPANCAKESaDUMPLINGaFORTUNE COOKIEaTAKEOUT BOXaCHOPSTICKSaBOWL WITH SPOONaCUP WITH STRAW
aCOCONUTaBROCCOLIaPIEaPRETZELaCUT OF MEATaSANDWICHaCANNED FOODaLEAFY GREENaMANGOaMOON CAKEaBAGEL
aSMILING FACE WITH SMILING EYES AND THREE HEARTSaYAWNING FACEaSMILING FACE WITH TEAR
aFACE WITH PARTY HORN AND PARTY HATcUNEVEN EYES AND WAVY MOUTHaOVERHEATED FACEaFREEZING FACEaNINJA
aDISGUISED FACEaFACE HOLDING BACK TEARSbWITH PLEADING EYESaSARIaLAB COATaGOGGLESaHIKING BOOT
aFLAT SHOEaCRABaLION FACEaSCORPIONaTURKEYaUNICORN FACEaEAGLEaDUCKaBATaSHARKaOWLaFOX FACEaBUTTERFLY
aDEERaGORILLAaLIZARDaRHINOCEROSaSHRIMPaSQUIDaGIRAFFE FACEaZEBRA FACEaHEDGEHOGaSAUROPODaT-REX
aCRICKETaKANGAROOaLLAMAaPEACOCKaHIPPOPOTAMUSaPARROTaRACCOONaLOBSTERaMOSQUITOaMICROBEaBADGERaSWAN
aMAMMOTHaDODOaSLOTHaOTTERaORANGUTANaSKUNKaFLAMINGOaOYSTERaBEAVERaBISONaSEALaGUIDE DOGaPROBING CANE
aEMOJI COMPONENT RED HAIRcCURLY HAIRcBALDcWHITE HAIRaBONEaLEGaFOOTaTOOTHaSUPERHEROaSUPERVILLAIN
aSAFETY VESTaEAR WITH HEARING AIDaMOTORIZED WHEELCHAIRaMANUAL WHEELCHAIRaMECHANICAL ARMbLEG
aCHEESE WEDGEaCUPCAKEaSALT SHAKERaBEVERAGE BOXaGARLICaONIONaFALAFELaWAFFLEaBUTTERaMATE DRINK
aICE CUBEaBUBBLE TEAaTROLLaSTANDING PERSONaKNEELING PERSONaDEAF PERSONaFACE WITH MONOCLEaADULT
aCHILDaOLDER ADULTaBEARDED PERSONaPERSON WITH HEADSCARFbIN STEAMY ROOMbCLIMBINGbIN LOTUS POSITION
aMAGEaFAIRYaVAMPIREaMERPERSONaELFaGENIEaZOMBIEaBRAINaORANGE HEARTaBILLED CAPaSCARFaGLOVESaCOAT
aSOCKSaRED GIFT ENVELOPEaFIRECRACKERaJIGSAW PUZZLE PIECEaTEST TUBEaPETRI DISHaDNA DOUBLE HELIX
aCOMPASSaABACUSaFIRE EXTINGUISHERaTOOLBOXaBRICKaMAGNETaLUGGAGEaLOTION BOTTLEaSPOOL OF THREAD
aBALL OF YARNaSAFETY PINaTEDDY BEARaBROOMaBASKETaROLL OF PAPERaBAR OF SOAPaSPONGEaRECEIPT
aNAZAR AMULETaNEUTRAL CHESS KINGcQUEENcROOKcBISHOPcKNIGHTcPAWN
aWHITE CHESS KNIGHT ROTATED FORTY-FIVE DEGREESaBLACK CHESS KNIGHT ROTATED FORTY-FIVE DEGREES
aNEUTRAL CHESS KNIGHT ROTATED FORTY-FIVE DEGREESaWHITE CHESS KING ROTATED NINETY DEGREES
cQUEEN ROTATED NINETY DEGREEScROOK ROTATED NINETY DEGREEScBISHOP ROTATED NINETY DEGREES
cKNIGHT ROTATED NINETY DEGREEScPAWN ROTATED NINETY DEGREESaBLACK CHESS KING ROTATED NINETY DEGREES
cQUEEN ROTATED NINETY DEGREEScROOK ROTATED NINETY DEGREEScBISHOP ROTATED NINETY DEGREES
cKNIGHT ROTATED NINETY DEGREEScPAWN ROTATED NINETY DEGREES
aNEUTRAL CHESS KING ROTATED NINETY DEGREEScQUEEN ROTATED NINETY DEGREEScROOK ROTATED NINETY DEGREES
cBISHOP ROTATED NINETY DEGREEScKNIGHT ROTATED NINETY DEGREEScPAWN ROTATED NINETY DEGREES
aWHITE CHESS KNIGHT ROTATED ONE HUNDRED THIRTY-FIVE DEGREES
aBLACK CHESS KNIGHT ROTATED ONE HUNDRED THIRTY-FIVE DEGREES
aNEUTRAL CHESS KNIGHT ROTATED ONE HUNDRED THIRTY-FIVE DEGREESaWHITE CHESS TURNED KINGdQUEENdROOK
dBISHOPdKNIGHTdPAWNaBLACK CHESS TURNED KINGdQUEENdROOKdBISHOPdKNIGHTdPAWNaNEUTRAL CHESS TURNED KING
dQUEENdROOKdBISHOPdKNIGHTdPAWNaWHITE CHESS KNIGHT ROTATED TWO HUNDRED TWENTY-FIVE DEGREES
aBLACK CHESS KNIGHT ROTATED TWO HUNDRED TWENTY-FIVE DEGREES
aNEUTRAL CHESS KNIGHT ROTATED TWO HUNDRED TWENTY-FIVE DEGREES
aWHITE CHESS KING ROTATED TWO HUNDRED SEVENTY DEGREEScQUEEN ROTATED TWO HUNDRED SEVENTY DEGREES
cROOK ROTATED TWO HUNDRED SEVENTY DEGREEScBISHOP ROTATED TWO HUNDRED SEVENTY DEGREES
cKNIGHT ROTATED TWO HUNDRED SEVENTY DEGREEScPAWN ROTATED TWO HUNDRED SEVENTY DEGREES
aBLACK CHESS KING ROTATED TWO HUNDRED SEVENTY DEGREEScQUEEN ROTATED TWO HUNDRED SEVENTY DEGREES
cROOK ROTATED TWO HUNDRED SEVENTY DEGREEScBISHOP ROTATED TWO HUNDRED SEVENTY DEGREES
cKNIGHT ROTATED TWO HUNDRED SEVENTY DEGREEScPAWN ROTATED TWO HUNDRED SEVENTY DEGREES
aNEUTRAL CHESS KING ROTATED TWO HUNDRED SEVENTY DEGREEScQUEEN ROTATED TWO HUNDRED SEVENTY DEGREES
cROOK ROTATED TWO HUNDRED SEVENTY DEGREEScBISHOP ROTATED TWO HUNDRED SEVENTY DEGREES
cKNIGHT ROTATED TWO HUNDRED SEVENTY DEGREEScPAWN ROTATED TWO HUNDRED SEVENTY DEGREES
aWHITE CHESS KNIGHT ROTATED THREE HUNDRED FIFTEEN DEGREES
aBLACK CHESS KNIGHT ROTATED THREE HUNDRED FIFTEEN DEGREES
aNEUTRAL CHESS KNIGHT ROTATED THREE HUNDRED FIFTEEN DEGREESaWHITE CHESS EQUIHOPPER
aBLACK CHESS EQUIHOPPERaNEUTRAL CHESS EQUIHOPPERaWHITE CHESS EQUIHOPPER ROTATED NINETY DEGREES
aBLACK CHESS EQUIHOPPER ROTATED NINETY DEGREESaNEUTRAL CHESS EQUIHOPPER ROTATED NINETY DEGREES
aWHITE CHESS KNIGHT-QUEENcKNIGHT-ROOKcKNIGHT-BISHOPaBLACK CHESS KNIGHT-QUEENcKNIGHT-ROOK
cKNIGHT-BISHOPx12aXIANGQI RED GENERALcMANDARINcELEPHANTcHORSEcCHARIOTcCANNONcSOLDIERbBLACK GENERAL
cMANDARINcELEPHANTcHORSEcCHARIOTcCANNONcSOLDIERx2aBALLET SHOESaONE-PIECE SWIMSUITaBRIEFSaSHORTS
aTHONG SANDALx3aDROP OF BLOODaADHESIVE BANDAGEaSTETHOSCOPEaX-RAYaCRUTCHx3aYO-YOaKITEaPARACHUTE
aBOOMERANGaMAGIC WANDaPINATAaNESTING DOLLSx9aRINGED PLANETaCHAIRaRAZORaAXEaDIYA LAMPaBANJO
aMILITARY HELMETaACCORDIONaLONG DRUMaCOINaCARPENTRY SAWaSCREWDRIVERaLADDERaHOOKaMIRRORaWINDOW
aPLUNGERaSEWING NEEDLEaKNOTaBUCKETaMOUSE TRAPaTOOTHBRUSHaHEADSTONEaPLACARDaROCKaMIRROR BALL
aIDENTIFICATION CARDaLOW BATTERYaHAMSAx3aFLYaWORMaBEETLEaCOCKROACHaPOTTED PLANTaWOODaFEATHERaLOTUS
aCORALaEMPTY NESTaNEST WITH EGGSx5aANATOMICAL HEARTaLUNGSaPEOPLE HUGGINGaPREGNANT MANbPERSON
aPERSON WITH CROWNx10aBLUEBERRIESaBELL PEPPERaOLIVEaFLATBREADaTAMALEaFONDUEaTEAPOTaPOURING LIQUID
aBEANSaJARx6aMELTING FACEaSALUTING FACEaFACE WITH OPEN EYES AND HAND OVER MOUTHcPEEKING EYE
cDIAGONAL MOUTHaDOTTED LINE FACEaBITING LIPaBUBBLESx8aHAND WITH INDEX FINGER AND THUMB CROSSED
aRIGHTWARDS HANDaLEFTWARDS HANDaPALM DOWN HANDbUP HANDaINDEX POINTING AT THE VIEWERaHEART HANDSx9
aBLOCK SEXTANT-1bSEXTANT-2bSEXTANT-12bSEXTANT-3bSEXTANT-13bSEXTANT-23bSEXTANT-123bSEXTANT-4
bSEXTANT-14bSEXTANT-24bSEXTANT-124bSEXTANT-34bSEXTANT-134bSEXTANT-234bSEXTANT-1234bSEXTANT-5
bSEXTANT-15bSEXTANT-25bSEXTANT-125bSEXTANT-35bSEXTANT-235bSEXTANT-1235bSEXTANT-45bSEXTANT-145
bSEXTANT-245bSEXTANT-1245bSEXTANT-345bSEXTANT-1345bSEXTANT-2345bSEXTANT-12345bSEXTANT-6bSEXTANT-16
bSEXTANT-26bSEXTANT-126bSEXTANT-36bSEXTANT-136bSEXTANT-236bSEXTANT-1236bSEXTANT-46bSEXTANT-146
bSEXTANT-1246bSEXTANT-346bSEXTANT-1346bSEXTANT-2346bSEXTANT-12346bSEXTANT-56bSEXTANT-156
bSEXTANT-256bSEXTANT-1256bSEXTANT-356bSEXTANT-1356bSEXTANT-2356bSEXTANT-12356bSEXTANT-456
bSEXTANT-1456bSEXTANT-2456bSEXTANT-12456bSEXTANT-3456bSEXTANT-13456bSEXTANT-23456
aLOWER LEFT BLOCK DIAGONAL LOWER MIDDLE LEFT TO LOWER CENTREjRIGHT
eUPPER MIDDLE LEFT TO LOWER CENTREjRIGHTfLEFT TO LOWER CENTRE
bRIGHT BLOCK DIAGONAL UPPER MIDDLE LEFT TO UPPER CENTREjRIGHTeLOWER MIDDLE LEFT TO UPPER CENTRE
jRIGHTfLEFT TO UPPER CENTREfMIDDLE LEFT TO UPPER MIDDLE RIGHTfCENTRE TO LOWER MIDDLE RIGHT
fLEFT TO LOWER MIDDLE RIGHTfCENTRE TO UPPER MIDDLE RIGHTfLEFT TO UPPER MIDDLE RIGHT
fCENTRE TO UPPER RIGHTbLEFT BLOCK DIAGONAL UPPER CENTRE TO UPPER MIDDLE RIGHT
fLEFT TO UPPER MIDDLE RIGHTfCENTRE TO LOWER MIDDLE RIGHTfLEFT TO LOWER MIDDLE RIGHT
fCENTRE TO LOWER RIGHTfMIDDLE LEFT TO LOWER MIDDLE RIGHT
aUPPER RIGHT BLOCK DIAGONAL LOWER MIDDLE LEFT TO LOWER CENTREjRIGHT
eUPPER MIDDLE LEFT TO LOWER CENTREjRIGHTfLEFT TO LOWER CENTRE
bLEFT BLOCK DIAGONAL UPPER MIDDLE LEFT TO UPPER CENTREjRIGHTeLOWER MIDDLE LEFT TO UPPER CENTRE
jRIGHTfLEFT TO UPPER CENTREfMIDDLE LEFT TO UPPER MIDDLE RIGHTfCENTRE TO LOWER MIDDLE RIGHT
fLEFT TO LOWER MIDDLE RIGHTfCENTRE TO UPPER MIDDLE RIGHTfLEFT TO UPPER MIDDLE RIGHT
fCENTRE TO UPPER RIGHTbRIGHT BLOCK DIAGONAL UPPER CENTRE TO UPPER MIDDLE RIGHT
fLEFT TO UPPER MIDDLE RIGHTfCENTRE TO LOWER MIDDLE RIGHTfLEFT TO LOWER MIDDLE RIGHT
fCENTRE TO LOWER RIGHTfMIDDLE LEFT TO LOWER MIDDLE RIGHT
bAND RIGHT AND LOWER TRIANGULAR THREE QUARTERS BLOCK
aLEFT AND LOWER AND RIGHT TRIANGULAR THREE QUARTERS BLOCK
aUPPER AND LEFT AND LOWER TRIANGULAR THREE QUARTERS BLOCK
aLEFT AND UPPER AND RIGHT TRIANGULAR THREE QUARTERS BLOCKbTRIANGULAR ONE QUARTER BLOCK
aUPPER TRIANGULAR ONE QUARTER BLOCKaRIGHT TRIANGULAR ONE QUARTER BLOCK
aLOWER TRIANGULAR ONE QUARTER BLOCKaVERTICAL ONE EIGHTH BLOCK-2dBLOCK-3dBLOCK-4dBLOCK-5dBLOCK-6
dBLOCK-7aHORIZONTAL ONE EIGHTH BLOCK-2dBLOCK-3dBLOCK-4dBLOCK-5dBLOCK-6dBLOCK-7
aLEFT AND LOWER ONE EIGHTH BLOCKcUPPER ONE EIGHTH BLOCKaRIGHT AND UPPER ONE EIGHTH BLOCK
cLOWER ONE EIGHTH BLOCKaUPPER AND LOWER ONE EIGHTH BLOCKaHORIZONTAL ONE EIGHTH BLOCK-1358
aUPPER ONE QUARTER BLOCKbTHREE EIGHTHS BLOCKbFIVE EIGHTHS BLOCKbTHREE QUARTERS BLOCK
bSEVEN EIGHTHS BLOCKaRIGHT ONE QUARTER BLOCKbTHREE EIGHTHS BLOCKbFIVE EIGHTHS BLOCK
bTHREE QUARTERS BLOCKbSEVEN EIGHTHS BLOCKaLEFT HALF MEDIUM SHADEaRIGHT HALF MEDIUM SHADE
aUPPER HALF MEDIUM SHADEaLOWER HALF MEDIUM SHADEaINVERSE MEDIUM SHADE
aUPPER HALF BLOCK AND LOWER HALF INVERSE MEDIUM SHADEcINVERSE MEDIUM SHADE AND LOWER HALF BLOCKx1
aLEFT HALF INVERSE MEDIUM SHADE AND RIGHT HALF BLOCKaCHECKER BOARD FILLaINVERSE CHECKER BOARD FILL
aHEAVY HORIZONTAL FILLaUPPER LEFT TO LOWER RIGHT FILLbRIGHT TO LOWER LEFT FILL
bAND LOWER TRIANGULAR HALF BLOCKaLEFT AND RIGHT TRIANGULAR HALF BLOCK
aUPPER LEFT TRIANGULAR MEDIUM SHADEbRIGHT TRIANGULAR MEDIUM SHADE
aLOWER RIGHT TRIANGULAR MEDIUM SHADEbLEFT TRIANGULAR MEDIUM SHADE
aBOX DRAWINGS LIGHT DIAGONAL UPPER CENTRE TO MIDDLE LEFTiRIGHTeMIDDLE LEFT TO LOWER CENTRE
fRIGHT TO LOWER CENTREeUPPER CENTRE TO MIDDLE LEFT TO LOWER CENTREiRIGHT TO LOWER CENTRE
eMIDDLE LEFT TO LOWER CENTRE TO MIDDLE RIGHThUPPER CENTRE TO MIDDLE RIGHT
eUPPER CENTRE TO MIDDLE LEFT AND MIDDLE RIGHT TO LOWER CENTREiRIGHT AND MIDDLE LEFT TO LOWER CENTRE
jTO LOWER CENTRE TO MIDDLE LEFTiLEFT TO LOWER CENTRE TO MIDDLE RIGHT
eMIDDLE LEFT TO UPPER CENTRE TO MIDDLE RIGHT TO LOWER CENTRE
fRIGHT TO UPPER CENTRE TO MIDDLE LEFT TO LOWER CENTREeDIAMONDdHORIZONTAL WITH VERTICAL STROKE
aARROWHEAD-SHAPED POINTERaINVERSE CHECK MARKaLEFT HALF RUNNING MANaRIGHT HALF RUNNING MAN
aINVERSE DOWNWARDS ARROW WITH TIP LEFTWARDSaLEFTWARDS ARROW AND UPPER AND LOWER ONE EIGHTH BLOCK
aRIGHTWARDS ARROW AND UPPER AND LOWER ONE EIGHTH BLOCKaDOWNWARDS ARROW AND RIGHT ONE EIGHTH BLOCK
aUPWARDS ARROW AND RIGHT ONE EIGHTH BLOCKaLEFT HALF FOLDERaRIGHT HALF FOLDERaVOIDED GREEK CROSS
aRIGHT OPEN SQUARED DOTaNEGATIVE DIAGONAL CROSScMIDDLE RIGHT TO LOWER CENTREcDIAMOND
aWHITE HEAVY SALTIRE WITH ROUNDED CORNERSaLEFT THIRD WHITE RIGHT POINTING INDEX
aMIDDLE THIRD WHITE RIGHT POINTING INDEXaRIGHT THIRD WHITE RIGHT POINTING INDEX
aNEGATIVE SQUARED QUESTION MARKaSTICK FIGUREcWITH ARMS RAISEDcLEANING LEFTdRIGHTcWITH DRESS
aWHITE UP-POINTING CHEVRONx37aSEGMENTED DIGIT ZEROcONEcTWOcTHREEcFOURcFIVEcSIXcSEVENcEIGHTcNINE
x787463aLANGUAGE TAGx30aTAG SPACEbEXCLAMATION MARKbQUOTATION MARKbNUMBER SIGNbDOLLAR SIGN
bPERCENT SIGNbAMPERSANDbAPOSTROPHEbLEFT PARENTHESISbRIGHT PARENTHESISbASTERISKbPLUS SIGNbCOMMA
bHYPHEN-MINUSbFULL STOPbSOLIDUSbDIGIT ZEROcONEcTWOcTHREEcFOURcFIVEcSIXcSEVENcEIGHTcNINEbCOLON
bSEMICOLONbLESS-THAN SIGNbEQUALS SIGNbGREATER-THAN SIGNbQUESTION MARKbCOMMERCIAL AT
bLATIN CAPITAL LETTER AeBeCeDeEeFeGeHeIeJeKeLeMeNeOePeQeReSeTeUeVeWeXeYeZbLEFT SQUARE BRACKET
bREVERSE SOLIDUSbRIGHT SQUARE BRACKETbCIRCUMFLEX ACCENTbLOW LINEbGRAVE ACCENTbLATIN SMALL LETTER A
eBeCeDeEeFeGeHeIeJeKeLeMeNeOePeQeReSeTeUeVeWeXeYeZbLEFT CURLY BRACKETbVERTICAL LINE
bRIGHT CURLY BRACKETbTILDEaCANCEL TAGx128aVARIATION SELECTOR-17bSELECTOR-18bSELECTOR-19bSELECTOR-20
bSELECTOR-21bSELECTOR-22bSELECTOR-23bSELECTOR-24bSELECTOR-25bSELECTOR-26bSELECTOR-27bSELECTOR-28
bSELECTOR-29bSELECTOR-30bSELECTOR-31bSELECTOR-32bSELECTOR-33bSELECTOR-34bSELECTOR-35bSELECTOR-36
bSELECTOR-37bSELECTOR-38bSELECTOR-39bSELECTOR-40bSELECTOR-41bSELECTOR-42bSELECTOR-43bSELECTOR-44
bSELECTOR-45bSELECTOR-46bSELECTOR-47bSELECTOR-48bSELECTOR-49bSELECTOR-50bSELECTOR-51bSELECTOR-52
bSELECTOR-53bSELECTOR-54bSELECTOR-55bSELECTOR-56bSELECTOR-57bSELECTOR-58bSELECTOR-59bSELECTOR-60
bSELECTOR-61bSELECTOR-62bSELECTOR-63bSELECTOR-64bSELECTOR-65bSELECTOR-66bSELECTOR-67bSELECTOR-68
bSELECTOR-69bSELECTOR-70bSELECTOR-71bSELECTOR-72bSELECTOR-73bSELECTOR-74bSELECTOR-75bSELECTOR-76
bSELECTOR-77bSELECTOR-78bSELECTOR-79bSELECTOR-80bSELECTOR-81bSELECTOR-82bSELECTOR-83bSELECTOR-84
bSELECTOR-85bSELECTOR-86bSELECTOR-87bSELECTOR-88bSELECTOR-89bSELECTOR-90bSELECTOR-91bSELECTOR-92
bSELECTOR-93bSELECTOR-94bSELECTOR-95bSELECTOR-96bSELECTOR-97bSELECTOR-98bSELECTOR-99bSELECTOR-100
bSELECTOR-101bSELECTOR-102bSELECTOR-103bSELECTOR-104bSELECTOR-105bSELECTOR-106bSELECTOR-107
bSELECTOR-108bSELECTOR-109bSELECTOR-110bSELECTOR-111bSELECTOR-112bSELECTOR-113bSELECTOR-114
bSELECTOR-115bSELECTOR-116bSELECTOR-117bSELECTOR-118bSELECTOR-119bSELECTOR-120bSELECTOR-121
bSELECTOR-122bSELECTOR-123bSELECTOR-124bSELECTOR-125bSELECTOR-126bSELECTOR-127bSELECTOR-128
bSELECTOR-129bSELECTOR-130bSELECTOR-131bSELECTOR-132bSELECTOR-133bSELECTOR-134bSELECTOR-135
bSELECTOR-136bSELECTOR-137bSELECTOR-138bSELECTOR-139bSELECTOR-140bSELECTOR-141bSELECTOR-142
bSELECTOR-143bSELECTOR-144bSELECTOR-145bSELECTOR-146bSELECTOR-147bSELECTOR-148bSELECTOR-149
bSELECTOR-150bSELECTOR-151bSELECTOR-152bSELECTOR-153bSELECTOR-154bSELECTOR-155bSELECTOR-156
bSELECTOR-157bSELECTOR-158bSELECTOR-159bSELECTOR-160bSELECTOR-161bSELECTOR-162bSELECTOR-163
bSELECTOR-164bSELECTOR-165bSELECTOR-166bSELECTOR-167bSELECTOR-168bSELECTOR-169bSELECTOR-170
bSELECTOR-171bSELECTOR-172bSELECTOR-173bSELECTOR-174bSELECTOR-175bSELECTOR-176bSELECTOR-177
bSELECTOR-178bSELECTOR-179bSELECTOR-180bSELECTOR-181bSELECTOR-182bSELECTOR-183bSELECTOR-184
bSELECTOR-185bSELECTOR-186bSELECTOR-187bSELECTOR-188bSELECTOR-189bSELECTOR-190bSELECTOR-191
bSELECTOR-192bSELECTOR-193bSELECTOR-194bSELECTOR-195bSELECTOR-196bSELECTOR-197bSELECTOR-198
bSELECTOR-199bSELECTOR-200bSELECTOR-201bSELECTOR-202bSELECTOR-203bSELECTOR-204bSELECTOR-205
bSELECTOR-206bSELECTOR-207bSELECTOR-208bSELECTOR-209bSELECTOR-210bSELECTOR-211bSELECTOR-212
bSELECTOR-213bSELECTOR-214bSELECTOR-215bSELECTOR-216bSELECTOR-217bSELECTOR-218bSELECTOR-219
bSELECTOR-220bSELECTOR-221bSELECTOR-222bSELECTOR-223bSELECTOR-224bSELECTOR-225bSELECTOR-226
bSELECTOR-227bSELECTOR-228bSELECTOR-229bSELECTOR-230bSELECTOR-231bSELECTOR-232bSELECTOR-233
bSELECTOR-234bSELECTOR-235bSELECTOR-236bSELECTOR-237bSELECTOR-238bSELECTOR-239bSELECTOR-240
bSELECTOR-241bSELECTOR-242bSELECTOR-243bSELECTOR-244bSELECTOR-245bSELECTOR-246bSELECTOR-247
bSELECTOR-248bSELECTOR-249bSELECTOR-250bSELECTOR-251bSELECTOR-252bSELECTOR-253bSELECTOR-254
bSELECTOR-255bSELECTOR-256"

end DocAudit.Text.Names
