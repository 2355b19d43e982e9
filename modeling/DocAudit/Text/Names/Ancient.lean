/-!
# Names of ancient characters

The names of the characters from U+10000 to U+1CFFF: mostly scripts that are no longer in use.
-/

namespace DocAudit.Text.Names

/-- The names from U+10000 on, in the shortened form that `Names.find` reads. -/
def ancient : String := "
aLINEAR B SYLLABLE B008 AdB038 EdB028 IdB061 OdB010 UdB001 DAdB045 DEdB007 DIdB014 DOdB051 DU
dB057 JAdB046 JEx1dB036 JOdB065 JUdB077 KAdB044 KEdB067 KIdB070 KOdB081 KUdB080 MAdB013 MEdB073 MI
dB015 MOdB023 MUdB006 NAdB024 NEdB030 NIdB052 NOdB055 NUdB003 PAdB072 PEdB039 PIdB011 POdB050 PU
dB016 QAdB078 QEdB021 QIdB032 QOx1dB060 RAdB027 REdB053 RIdB002 ROdB026 RUdB031 SAdB009 SEdB041 SI
dB012 SOdB058 SUdB059 TAdB004 TEdB037 TIdB005 TOdB069 TUdB054 WAdB075 WEdB040 WIdB042 WOx1dB017 ZA
dB074 ZEx1dB020 ZOdB025 A2dB043 A3dB085 AUdB071 DWEdB090 DWOdB048 NWAdB029 PU2dB062 PTEdB076 RA2
dB033 RA3dB068 RO2dB066 TA2dB087 TWEdB091 TWOx2cSYMBOL B018dB019dB022dB034dB047dB049dB056dB063dB064
dB079dB082dB083dB086dB089x34cIDEOGRAM B100 MANdB102 WOMANdB104 DEERdB105 EQUIDdB105F MARE
dB105M STALLIONdB106F EWEdB106M RAMdB107F SHE-GOATdB107M HE-GOATdB108F SOWdB108M BOARdB109F COW
dB109M BULLdB120 WHEATdB121 BARLEYdB122 OLIVEdB123 SPICEdB125 CYPERUScMONOGRAM B127 KAPO
dB128 KANAKOcIDEOGRAM B130 OILdB131 WINEdB132cMONOGRAM B133 AREPAdB135 MERIcIDEOGRAM B140 BRONZE
dB141 GOLDdB142dB145 WOOLdB146dB150dB151 HORNdB152dB153dB154cMONOGRAM B156 TURO2cIDEOGRAM B157dB158
dB159 CLOTHdB160dB161dB162 GARMENTdB163 ARMOURdB164dB165dB166dB167dB168dB169dB170dB171dB172
dB173 MONTHdB174dB176 TREEdB177dB178dB179dB180dB181dB182dB183dB184dB185dB189dB190dB191 HELMET
dB220 FOOTSTOOLdB225 BATHTUBdB230 SPEARdB231 ARROWdB232dB233 SWORDdB234dB236dB240 WHEELED CHARIOT
dB241 CHARIOTdB242 CHARIOT FRAMEdB243 WHEELdB245dB246cMONOGRAM B247 DIPTEcIDEOGRAM B248dB249dB251
dB252dB253dB254 DARTdB255dB256dB257dB258dB259dVESSEL B155eB200eB201eB202eB203eB204eB205eB206eB207
eB208eB209eB210eB211eB212eB213eB214eB215eB216eB217eB218eB219eB221eB222eB226eB227eB228eB229eB250
eB305x5aAEGEAN WORD SEPARATOR LINEdDOTbCHECK MARKx4bNUMBER ONEcTWOcTHREEcFOURcFIVEcSIXcSEVENcEIGHT
cNINEcTENcTWENTYcTHIRTYcFORTYcFIFTYcSIXTYcSEVENTYcEIGHTYcNINETYcONE HUNDREDcTWO HUNDRED
cTHREE HUNDREDcFOUR HUNDREDcFIVE HUNDREDcSIX HUNDREDcSEVEN HUNDREDcEIGHT HUNDREDcNINE HUNDRED
cONE THOUSANDcTWO THOUSANDcTHREE THOUSANDcFOUR THOUSANDcFIVE THOUSANDcSIX THOUSANDcSEVEN THOUSAND
cEIGHT THOUSANDcNINE THOUSANDcTEN THOUSANDcTWENTY THOUSANDcTHIRTY THOUSANDcFORTY THOUSAND
cFIFTY THOUSANDcSIXTY THOUSANDcSEVENTY THOUSANDcEIGHTY THOUSANDcNINETY THOUSANDx3bWEIGHT BASE UNIT
cFIRST SUBUNITcSECOND SUBUNITcTHIRD SUBUNITcFOURTH SUBUNITbDRY MEASURE FIRST SUBUNIT
bLIQUID MEASURE FIRST SUBUNITbMEASURE SECOND SUBUNITcTHIRD SUBUNIT
aGREEK ACROPHONIC ATTIC ONE QUARTEReHALFeDRACHMAdFIVEdFIFTYdFIVE HUNDREDeTHOUSANDdFIFTY THOUSAND
dFIVE TALENTSdTEN TALENTSdFIFTY TALENTSdONE HUNDRED TALENTSdFIVE HUNDRED TALENTS
dONE THOUSAND TALENTSdFIVE THOUSAND TALENTSeSTATERSdTEN STATERSdFIFTY STATERSdONE HUNDRED STATERS
dFIVE HUNDRED STATERSdONE THOUSAND STATERSdTEN THOUSAND STATERSdFIFTY THOUSAND STATERSdTEN MNAS
cHERAEUM ONE PLETHRONcTHESPIAN ONEcHERMIONIAN ONEcEPIDAUREAN TWOcTHESPIAN TWOcCYRENAIC TWO DRACHMAS
cEPIDAUREAN TWO DRACHMAScTROEZENIAN FIVEdTENeALTERNATE FORMcHERMIONIAN TENcMESSENIAN TEN
cTHESPIAN TENdTHIRTYcTROEZENIAN FIFTYeALTERNATE FORMcHERMIONIAN FIFTYcTHESPIAN FIFTYdONE HUNDRED
dTHREE HUNDREDcEPIDAUREAN FIVE HUNDREDcTROEZENIAN FIVE HUNDREDcTHESPIAN FIVE HUNDRED
cCARYSTIAN FIVE HUNDREDcNAXIAN FIVE HUNDREDcTHESPIAN ONE THOUSANDdFIVE THOUSANDcDELPHIC FIVE MNAS
cSTRATIAN FIFTY MNASbONE HALF SIGNeALTERNATE FORMbTWO THIRDS SIGNbTHREE QUARTERS SIGNbYEAR SIGN
bTALENT SIGNbDRACHMA SIGNbOBOL SIGNbTWO OBOLS SIGNbTHREE OBOLS SIGNbFOUR OBOLS SIGNbFIVE OBOLS SIGN
bMETRETES SIGNbKYATHOS BASE SIGNbLITRA SIGNbOUNKIA SIGNbXESTES SIGNbARTABE SIGNbAROURA SIGN
bGRAMMA SIGNbTRYBLION BASE SIGNbZERO SIGNbONE QUARTER SIGNbSINUSOID SIGNbINDICTION SIGN
aNOMISMA SIGNx1aROMAN SEXTANS SIGNbUNCIA SIGNbSEMUNCIA SIGNbSEXTULA SIGNbDIMIDIA SEXTULA SIGN
bSILIQUA SIGNbDENARIUS SIGNbQUINARIUS SIGNbSESTERTIUS SIGNbDUPONDIUS SIGNbAS SIGNbCENTURIAL SIGN
aASCIA SYMBOLx3aGREEK SYMBOL TAU RHOx47aPHAISTOS DISC SIGN PEDESTRIANdPLUMED HEADdTATTOOED HEAD
dCAPTIVEdCHILDdWOMANdHELMETdGAUNTLETdTIARAdARROWdBOWdSHIELDdCLUBdMANACLESdMATTOCKdSAWdLIDdBOOMERANG
dCARPENTRY PLANEdDOLIUMdCOMBdSLINGdCOLUMNdBEEHIVEdSHIPdHORNdHIDEdBULLS LEGdCATdRAMdEAGLEdDOVEdTUNNY
dBEEdPLANE TREEdVINEdPAPYRUSdROSETTEdLILYdOX BACKdFLUTEdGRATERdSTRAINERdSMALL AXEdWAVY BAND
dCOMBINING OBLIQUE STROKEx130aLYCIAN LETTER AcEcBcBHcGcDcIcWcZcTHcJcKcQcLcMcNcMMcNNcUcPcKKcRcScTcTT
cANcENcHcXx3aCARIAN LETTER AcP2cDcLcUUUcRcLDcA2cQcBcMcOcD2cTcSHcSH2cScC-18cUcNNcXcNcTT2cPcSScIcE
cUUUUcKcK2cNDcUUcGcG2cSTcST2cNGcIIcC-39cTTcUUU2cRRcMBcMB2cMB3cMB4cLD2cE2cUUU3x15
aCOPTIC EPACT THOUSANDS MARKcDIGIT ONEdTWOdTHREEdFOURdFIVEdSIXdSEVENdEIGHTdNINEcNUMBER TENdTWENTY
dTHIRTYdFORTYdFIFTYdSIXTYdSEVENTYdEIGHTYdNINETYdONE HUNDREDdTWO HUNDREDdTHREE HUNDREDdFOUR HUNDRED
dFIVE HUNDREDdSIX HUNDREDdSEVEN HUNDREDdEIGHT HUNDREDdNINE HUNDREDx4aOLD ITALIC LETTER AdBEdKEdDEdE
dVEdZEdHEdTHEdIdKAdELdEMdENdESHdOdPEdSHEdKUdERdESdTEdUdEKSdPHEdKHEdEFdERSdCHEdIIdUUdESScNUMERAL ONE
dFIVEdTENdFIFTYx9cLETTER YEdNORTHERN TSEdSOUTHERN TSEaGOTHIC LETTER AHSAcBAIRKANcGIBAcDAGScAIHVUS
cQAIRTHRAcIUJAcHAGLcTHIUTHcEIScKUSMAcLAGUScMANNAcNAUTHScJERcURUScPAIRTHRAcNINETYcRAIDAcSAUILcTEIWS
cWINJAcFAIHUcIGGWScHWAIRcOTHALcNINE HUNDREDx5aOLD PERMIC LETTER ANdBURdGAIdDOIdEdZHOIdDZHOIdZATA
dDZITAdIdKOKEdLEIdMENOEdNENOEdVOOIdPEEIdREIdSIIdTAIdUdCHERYdSHOOIdSHCHOOIdYRYdYERUdOdOOdEFdHAdTSIU
dVERdYERdYERIdYATdIEdYUdYAdIAaCOMBINING OLD PERMIC LETTER ANeDOIeZATAeNENOEeSIIx5
aUGARITIC LETTER ALPAcBETAcGAMLAcKHAcDELTAcHOcWOcZETAcHOTAcTETcYODcKAFcSHINcLAMDAcMEMcDHALcNUNcZU
cSAMKAcAINcPUcSADEcQOPAcRASHAcTHANNAcGHAINcTOcIcUcSSUx1bWORD DIVIDERaOLD PERSIAN SIGN AdIdUdKAdKU
dGAdGUdXAdCAdJAdJIdTAdTUdDAdDIdDUdTHAdPAdBAdFAdNAdNUdMAdMIdMUdYAdVAdVIdRAdRUdLAdSAdZAdSHAdSSAdHAx4
dAURAMAZDAAdAURAMAZDAA-2dAURAMAZDAAHAdXSHAAYATHIYAdDAHYAAUSHdDAHYAAUSH-2dBAGAdBUUMISHcWORD DIVIDER
cNUMBER ONEdTWOdTENdTWENTYdHUNDREDx42aDESERET CAPITAL LETTER LONG IeEeAeAHeOeOOdSHORT IeEeAeAHeOeOO
dAYdOWdWUdYEEdHdPEEdBEEdTEEdDEEdCHEEdJEEdKAYdGAYdEFdVEEdETHdTHEEdESdZEEdESHdZHEEdERdELdEMdENdENGdOI
dEWbSMALL LETTER LONG IeEeAeAHeOeOOdSHORT IeEeAeAHeOeOOdAYdOWdWUdYEEdHdPEEdBEEdTEEdDEEdCHEEdJEEdKAY
dGAYdEFdVEEdETHdTHEEdESdZEEdESHdZHEEdERdELdEMdENdENGdOIdEWaSHAVIAN LETTER PEEPcTOTcKICKcFEEcTHIGH
cSOcSUREcCHURCHcYEAcHUNGcBIBcDEADcGAGcVOWcTHEYcZOOcMEASUREcJUDGEcWOEcHA-HAcLOLLcMIMEcIFcEGGcASHcADO
cONcWOOLcOUTcAHcROARcNUNcEATcAGEcICEcUPcOAKcOOZEcOILcAWEcAREcORcAIRcERRcARRAYcEARcIANcYEW
aOSMANYA LETTER ALEFcBAcTAcJAcXAcKHAcDEELcRAcSAcSHIINcDHAcCAYNcGAcFAcQAAFcKAAFcLAANcMIINcNUUNcWAW
cHAcYAcAcEcIcOcUcAAcEEcOOx2bDIGIT ZEROcONEcTWOcTHREEcFOURcFIVEcSIXcSEVENcEIGHTcNINEx6
aOSAGE CAPITAL LETTER AdAIdAINdAHdBRAdCHAdEHCHAdEdEINdHAdHYAdIdKAdEHKAdKYAdLAdMAdNAdOdOINdPAdEHPA
dSAdSHAdTAdEHTAdTSAdEHTSAdTSHAdDHAdUdWAdKHAdGHAdZAdZHAx4bSMALL LETTER AdAIdAINdAHdBRAdCHAdEHCHAdE
dEINdHAdHYAdIdKAdEHKAdKYAdLAdMAdNAdOdOINdPAdEHPAdSAdSHAdTAdEHTAdTSAdEHTSAdTSHAdDHAdUdWAdKHAdGHAdZA
dZHAx4aELBASAN LETTER AcBEcCEcCHEcDEcNDEcDHEcEIcEcFEcGEcGJEcHEcIcJEcKEcLEcLLEcMEcNEcNAcNJEcOcPEcQE
cREcRREcSEcSHEcTEcTHEcUcVEcXEcYcZEcZHEcGHEcGHAMMAcKHEx8aCAUCASIAN ALBANIAN LETTER ALTdBETdGIMdDAT
dEBdZARLdEYNdZHILdTASdCHAdYOWDdZHAdIRBdSHAdLANdINYAdXEYNdDYANdCARdJHOXdKARdLYITdHEYTdQAYdAORdCHOY
dCHIdCYAYdMAQdQARdNOWCdDZYAYdSHAKdJAYNdONdTYAYdFAMdDZAYdCHATdPENdGHEYSdRATdSEYKdVEYZdTIWRdSHOYdIWN
dCYAWdCAYNdYAYDdPIWRdKIWx11cCITATION MARKaVITHKUQI CAPITAL LETTER AdBBEdBEdCEdCHEdDEdDHEdEIdEdFEdGA
x1dHAdHHAdIdIJEdJEdKAdLAdLLAdMEdNEdNJEdOdPEdQAdREx1dSEdSHEdTEdTHEdUdVEdXEx1dYdZEx1bSMALL LETTER A
dBBEdBEdCEdCHEdDEdDHEdEIdEdFEdGAx1dHAdHHAdIdIJEdJEdKAdLAdLLAdMEdNEdNJEdOdPEdQAdREx1dSEdSHEdTEdTHEdU
dVEdXEx1dYdZEx67aLINEAR A SIGN AB001dAB002dAB003dAB004dAB005dAB006dAB007dAB008dAB009dAB010dAB011
dAB013dAB016dAB017dAB020dAB021dAB021FdAB021MdAB022dAB022FdAB022MdAB023dAB023MdAB024dAB026dAB027
dAB028dA028BdAB029dAB030dAB031dAB034dAB037dAB038dAB039dAB040dAB041dAB044dAB045dAB046dAB047dAB048
dAB049dAB050dAB051dAB053dAB054dAB055dAB056dAB057dAB058dAB059dAB060dAB061dAB065dAB066dAB067dAB069
dAB070dAB073dAB074dAB076dAB077dAB078dAB079dAB080dAB081dAB082dAB085dAB086dAB087dA100-102dAB118dAB120
dA120BdAB122dAB123dAB131AdAB131BdA131CdAB164dAB171dAB180dAB188dAB191dA301dA302dA303dA304dA305dA306
dA307dA308dA309AdA309BdA309CdA310dA311dA312dA313AdA313BdA313CdA314dA315dA316dA317dA318dA319dA320
dA321dA322dA323dA324dA325dA326dA327dA328dA329dA330dA331dA332dA333dA334dA335dA336dA337dA338dA339
dA340dA341dA342dA343dA344dA345dA346dA347dA348dA349dA350dA351dA352dA353dA354dA355dA356dA357dA358
dA359dA360dA361dA362dA363dA364dA365dA366dA367dA368dA369dA370dA371dA400-VASdA401-VASdA402-VAS
dA403-VASdA404-VASdA405-VASdA406-VASdA407-VASdA408-VASdA409-VASdA410-VASdA411-VASdA412-VASdA413-VAS
dA414-VASdA415-VASdA416-VASdA417-VASdA418-VASdA501dA502dA503dA504dA505dA506dA508dA509dA510dA511
dA512dA513dA515dA516dA520dA521dA523dA524dA525dA526dA527dA528dA529dA530dA531dA532dA534dA535dA536
dA537dA538dA539dA540dA541dA542dA545dA547dA548dA549dA550dA551dA552dA553dA554dA555dA556dA557dA559
dA563dA564dA565dA566dA568dA569dA570dA571dA572dA573dA574dA575dA576dA577dA578dA579dA580dA581dA582
dA583dA584dA585dA586dA587dA588dA589dA591dA592dA594dA595dA596dA598dA600dA601dA602dA603dA604dA606
dA608dA609dA610dA611dA612dA613dA614dA615dA616dA617dA618dA619dA620dA621dA622dA623dA624dA626dA627
dA628dA629dA634dA637dA638dA640dA642dA643dA644dA645dA646dA648dA649dA651dA652dA653dA654dA655dA656
dA657dA658dA659dA660dA661dA662dA663dA664x9dA701 AdA702 BdA703 DdA704 EdA705 FdA706 HdA707 JdA708 K
dA709 LdA709-2 L2dA709-3 L3dA709-4 L4dA709-6 L6dA710 WdA711 XdA712 YdA713 OMEGAdA714 ABBdA715 BB
dA717 DDdA726 EYYYdA732 JEx10dA800dA801dA802dA803dA804dA805dA806dA807x24
aMODIFIER LETTER SMALL CAPITAL AAcSUPERSCRIPT TRIANGULAR COLONdHALF TRIANGULAR COLONcSMALL AE
dCAPITAL BdB WITH HOOKx1dDZ DIGRAPHfWITH RETROFLEX HOOKgCURLdDEZH DIGRAPHdD WITH TAILfHOOKgAND TAIL
dREVERSED EdCLOSED REVERSED OPEN EdFENG DIGRAPHdRAMS HORNdCAPITAL GdG WITH HOOKdCAPITAL G WITH HOOK
dH WITH STROKEdCAPITAL HdHENG WITH HOOKdDOTLESS J WITH STROKE AND HOOKdLS DIGRAPHdLZ DIGRAPH
dL WITH BELTdCAPITAL L WITH BELTdL WITH RETROFLEX HOOK AND BELTdLEZHeWITH RETROFLEX HOOKdTURNED Y
fWITH BELTdO WITH STROKEdCAPITAL OEdCLOSED OMEGAdQdTURNED R WITH LONG LEGiAND RETROFLEX HOOK
dR WITH TAILfFISHHOOKdCAPITAL RdTC DIGRAPH WITH CURLdTS DIGRAPHfWITH RETROFLEX HOOKdTESH DIGRAPH
dT WITH RETROFLEX HOOKdV WITH RIGHT HOOKx1dCAPITAL YcGLOTTAL STOP WITH STROKE
cREVERSED GLOTTAL STOP WITH STROKEcBILABIAL CLICKcDENTAL CLICKcLATERAL CLICKcALVEOLAR CLICK
cRETROFLEX CLICK WITH RETROFLEX HOOKcSMALL S WITH CURLx69aCYPRIOT SYLLABLE AcEcIcOcUcJAx2cJOx1cKA
cKEcKIcKOcKUcLAcLEcLIcLOcLUcMAcMEcMIcMOcMUcNAcNEcNIcNOcNUcPAcPEcPIcPOcPUcRAcREcRIcROcRUcSAcSEcSIcSO
cSUcTAcTEcTIcTOcTUcWAcWEcWIcWOx1cXAcXEx3cZAx2cZOaIMPERIAL ARAMAIC LETTER ALEPHdBETHdGIMELdDALETHdHE
dWAWdZAYINdHETHdTETHdYODHdKAPHdLAMEDHdMEMdNUNdSAMEKHdAYINdPEdSADHEdQOPHdRESHdSHINdTAWx1
cSECTION SIGNcNUMBER ONEdTWOdTHREEdTENdTWENTYdONE HUNDREDeTHOUSANDdTEN THOUSAND
aPALMYRENE LETTER ALEPHcBETHcGIMELcDALETHcHEcWAWcZAYINcHETHcTETHcYODHcKAPHcLAMEDHcMEMcFINAL NUNcNUN
cSAMEKHcAYINcPEcSADHEcQOPHcRESHcSHINcTAWbLEFT-POINTING FLEURONbRIGHT-POINTING FLEURONbNUMBER ONE
cTWOcTHREEcFOURcFIVEcTENcTWENTYaNABATAEAN LETTER FINAL ALEPHcALEPHcFINAL BETHcBETHcGIMELcDALETH
cFINAL HEcHEcWAWcZAYINcHETHcTETHcFINAL YODHcYODHcFINAL KAPHcKAPHcFINAL LAMEDHcLAMEDHcFINAL MEMcMEM
cFINAL NUNcNUNcSAMEKHcAYINcPEcSADHEcQOPHcRESHcFINAL SHINcSHINcTAWx8bNUMBER ONEcTWOcTHREEcFOUR
bCRUCIFORM NUMBER FOURbNUMBER FIVEcTENcTWENTYcONE HUNDREDx48aHATRAN LETTER ALEPHcBETHcGIMEL
cDALETH-RESHcHEcWAWcZAYNcHETHcTETHcYODHcKAPHcLAMEDHcMEMcNUNcSAMEKHcAYNcPEcSADHEcQOPHx1cSHINcTAWx5
bNUMBER ONEcFIVEcTENcTWENTYcONE HUNDREDaPHOENICIAN LETTER ALFcBETcGAMLcDELTcHEcWAUcZAIcHETcTETcYOD
cKAFcLAMDcMEMcNUNcSEMKcAINcPEcSADEcQOFcROSHcSHINcTAUbNUMBER ONEcTENcTWENTYcONE HUNDREDcTWOcTHREEx3
bWORD SEPARATORaLYDIAN LETTER AcBcGcDcEcVcIcYcKcLcMcNcOcRcSScTcUcFcQcScTTcANcENcLYcNNcCx5
bTRIANGULAR MARKx64aMEROITIC HIEROGLYPHIC LETTER AdEdIdOdYAdWAdBAdBA-2dPAdMAdNAdNA-2dNEdNE-2dRA
dRA-2dLAdKHAdHHAdSAdSA-2dSEdKAdQAdTAdTA-2dTEdTE-2dTOdDAcSYMBOL VIDJdVIDJ-2bCURSIVE LETTER AdEdIdO
dYAdWAdBAdPAdMAdNAdNEdRAdLAdKHAdHHAdSAdARCHAIC SAdSEdKAdQAdTAdTEdTOdDAx4cFRACTION ELEVEN TWELFTHS
dONE HALFcLOGOGRAM RMTdIMNcNUMBER ONEdTWOdTHREEdFOURdFIVEdSIXdSEVENdEIGHTdNINEdTENdTWENTYdTHIRTY
dFORTYdFIFTYdSIXTYdSEVENTYx2dONE HUNDREDdTWO HUNDREDdTHREE HUNDREDdFOUR HUNDREDdFIVE HUNDRED
dSIX HUNDREDdSEVEN HUNDREDdEIGHT HUNDREDdNINE HUNDREDdONE THOUSANDdTWO THOUSANDdTHREE THOUSAND
dFOUR THOUSANDdFIVE THOUSANDdSIX THOUSANDdSEVEN THOUSANDdEIGHT THOUSANDdNINE THOUSANDdTEN THOUSAND
dTWENTY THOUSANDdTHIRTY THOUSANDdFORTY THOUSANDdFIFTY THOUSANDdSIXTY THOUSANDdSEVENTY THOUSAND
dEIGHTY THOUSANDdNINETY THOUSANDdONE HUNDRED THOUSANDdTWO HUNDRED THOUSANDdTHREE HUNDRED THOUSAND
dFOUR HUNDRED THOUSANDdFIVE HUNDRED THOUSANDdSIX HUNDRED THOUSANDdSEVEN HUNDRED THOUSAND
dEIGHT HUNDRED THOUSANDdNINE HUNDRED THOUSANDcFRACTION ONE TWELFTHdTWO TWELFTHSdTHREE TWELFTHS
dFOUR TWELFTHSdFIVE TWELFTHSdSIX TWELFTHSdSEVEN TWELFTHSdEIGHT TWELFTHSdNINE TWELFTHSdTEN TWELFTHS
aKHAROSHTHI LETTER AbVOWEL SIGN IdUdVOCALIC Rx1dEdOx5cLENGTH MARKbSIGN DOUBLE RING BELOWcANUSVARA
cVISARGAbLETTER KAcKHAcGAcGHAx1cCAcCHAcJAx1cNYAcTTAcTTHAcDDAcDDHAcNNAcTAcTHAcDAcDHAcNAcPAcPHAcBA
cBHAcMAcYAcRAcLAcVAcSHAcSSAcSAcZAcHAcKKAcTTTHAcTTTAcVHAx2bSIGN BAR ABOVEcCAUDAcDOT BELOWx4bVIRAMA
bDIGIT ONEcTWOcTHREEcFOURbNUMBER TENcTWENTYcONE HUNDREDdTHOUSANDbFRACTION ONE HALFx7
bPUNCTUATION DOTcSMALL CIRCLEcCIRCLEcCRESCENT BARcMANGALAMcLOTUScDANDAcDOUBLE DANDAcLINESx7
aOLD SOUTH ARABIAN LETTER HEeLAMEDHeHETHeMEMeQOPHeWAWeSHINeRESHeBETHeTAWeSATeKAPHeNUNeKHETHeSADHE
eSAMEKHeFEeALEFeAYNeDHADHEeGIMELeDALETHeGHAYNeTETHeZAYNeDHALETHeYODHeTHAWeTHETHdNUMBER ONEeFIFTY
dNUMERIC INDICATORbNORTH ARABIAN LETTER HEHeLAMeHAHeMEEMeQAFeWAWeES-2eREHeBEHeTEHeES-1eKAFeNOON
eKHAHeSADeES-3eFEHeALEFeAINeDADeGEEMeDALeGHAINeTAHeZAINeTHALeYEHeTHEHeZAHdNUMBER ONEeTENeTWENTYx32
aMANICHAEAN LETTER ALEPHcBETHcBHETHcGIMELcGHIMELcDALETHcHEcWAWbSIGN UDbLETTER ZAYINcZHAYINcJAYIN
cJHAYINcHETHcTETHcYODHcKAPHcXAPHcKHAPHcLAMEDHcDHAMEDHcTHAMEDHcMEMcNUNcSAMEKHcAYINcAAYINcPEcFEcSADHE
cQOPHcXOPHcQHOPHcRESHcSHINcSSHINcTAWbABBREVIATION MARK ABOVEdBELOWx4bNUMBER ONEcFIVEcTENcTWENTY
cONE HUNDREDbPUNCTUATION STARcFLEURONcDOUBLE DOT WITHIN DOTcDOT WITHIN DOTcDOTcTWO DOTScLINE FILLER
x9aAVESTAN LETTER AcAAcAOcAAOcANcAANcAEcAEEcEcEEcOcOOcIcIIcUcUUcKEcXEcXYEcXVEcGEcGGEcGHEcCEcJEcTE
cTHEcDEcDHEcTTEcPEcFEcBEcBHEcNGEcNGYEcNGVEcNEcNYEcNNEcMEcHMEcYYEcYEcVEcREcLEcSEcZEcSHEcZHEcSHYE
cSSHEcHEx3bABBREVIATION MARKaTINY TWO DOTS OVER ONE DOT PUNCTUATION
aSMALL TWO DOTS OVER ONE DOT PUNCTUATIONaLARGE TWO DOTS OVER ONE DOT PUNCTUATION
bONE DOT OVER TWO DOTS PUNCTUATIONbTWO RINGS OVER ONE RING PUNCTUATION
bONE RING OVER TWO RINGS PUNCTUATIONaINSCRIPTIONAL PARTHIAN LETTER ALEPHdBETHdGIMELdDALETHdHEdWAW
dZAYINdHETHdTETHdYODHdKAPHdLAMEDHdMEMdNUNdSAMEKHdAYINdPEdSADHEdQOPHdRESHdSHINdTAWx2cNUMBER ONEdTWO
dTHREEdFOURdTENdTWENTYdONE HUNDREDeTHOUSANDbPAHLAVI LETTER ALEPHdBETHdGIMELdDALETHdHEdWAW-AYIN-RESH
dZAYINdHETHdTETHdYODHdKAPHdLAMEDHdMEM-QOPHdNUNdSAMEKHdPEdSADHEdSHINdTAWx5cNUMBER ONEdTWOdTHREEdFOUR
dTENdTWENTYdONE HUNDREDeTHOUSANDaPSALTER PAHLAVI LETTER ALEPHdBETHdGIMELdDALETHdHEdWAW-AYIN-RESH
dZAYINdHETHdYODHdKAPHdLAMEDHdMEM-QOPHdNUNdSAMEKHdPEdSADHEdSHINdTAWx7cSECTION MARK
cTURNED SECTION MARKcFOUR DOTS WITH CROSSfDOTx12cNUMBER ONEdTWOdTHREEdFOURdTENdTWENTYdONE HUNDRED
x80aOLD TURKIC LETTER ORKHON AdYENISEI AeAEdORKHON IdYENISEI IeEdORKHON OeOEdYENISEI OEdORKHON AB
dYENISEI ABdORKHON AEBdYENISEI AEBdORKHON AGdYENISEI AGdORKHON AEGdYENISEI AEGdORKHON ADdYENISEI AD
dORKHON AEDeEZdYENISEI EZdORKHON AYdYENISEI AYdORKHON AEYdYENISEI AEYdORKHON AEKdYENISEI AEK
dORKHON OEKdYENISEI OEKdORKHON ALdYENISEI ALdORKHON AELeELTeEMeANeAENdYENISEI AENdORKHON ENT
dYENISEI ENTdORKHON ENCdYENISEI ENCdORKHON ENYdYENISEI ENYeANGdORKHON ENGdYENISEI AENGdORKHON EPeOP
eICeECdYENISEI ECdORKHON AQdYENISEI AQdORKHON IQdYENISEI IQdORKHON OQdYENISEI OQdORKHON AR
dYENISEI ARdORKHON AEReASeAESeASHdYENISEI ASHdORKHON ESHdYENISEI ESHdORKHON ATdYENISEI AT
dORKHON AETdYENISEI AETdORKHON OTeBASHx55bHUNGARIAN CAPITAL LETTER AeAAeEBeAMBeECeENCeECSeEDeANDeE
eCLOSE EeEEeEFeEGeEGYeEHeIeIIeEJeEKeAKeUNKeELeELYeEMeENeENYeOeOOeNIKOLSBURG OEeRUDIMENTA OEeOEEeEP
eEMPeEReSHORT EReESeESZeETeENTeETYeECHeUeUUeNIKOLSBURG UEeRUDIMENTA UEeEVeEZeEZSeENT-SHAPED SIGNeUS
x13cSMALL LETTER AeAAeEBeAMBeECeENCeECSeEDeANDeEeCLOSE EeEEeEFeEGeEGYeEHeIeIIeEJeEKeAKeUNKeELeELY
eEMeENeENYeOeOOeNIKOLSBURG OEeRUDIMENTA OEeOEEeEPeEMPeEReSHORT EReESeESZeETeENTeETYeECHeUeUU
eNIKOLSBURG UEeRUDIMENTA UEeEVeEZeEZSeENT-SHAPED SIGNeUSx7cNUMBER ONEdFIVEdTENdFIFTYdONE HUNDRED
eTHOUSANDaHANIFI ROHINGYA LETTER AdBAdPAdTAdTTAdJAdCAdHAdKHAdFAdDAdDDAdRAdRRAdZAdSAdSHAdKAdGAdLAdMA
dNAdWAdKINNA WAdYAdKINNA YAdNGAdNYAdVAcVOWEL AdIdUdEdOcMARK SAKINdNA KHONNAcSIGN HARBAHAYdTAHALA
dTANAdTASSIx8cDIGIT ZEROdONEdTWOdTHREEdFOURdFIVEdSIXdSEVENdEIGHTdNINEx294aRUMI DIGIT ONEcTWOcTHREE
cFOURcFIVEcSIXcSEVENcEIGHTcNINEbNUMBER TENcTWENTYcTHIRTYcFORTYcFIFTYcSIXTYcSEVENTYcEIGHTYcNINETY
cONE HUNDREDcTWO HUNDREDcTHREE HUNDREDcFOUR HUNDREDcFIVE HUNDREDcSIX HUNDREDcSEVEN HUNDRED
cEIGHT HUNDREDcNINE HUNDREDbFRACTION ONE HALFdQUARTERdTHIRDcTWO THIRDSx1aYEZIDI LETTER ELIFcBEcPE
cPHEcTHEcSEcCIMcCHIMcCHHIMcHHAcXAcDALcZALcRAcRHAcZAcJAcSINcSHINcSADcDADcTAcZEcEYNcXHEYNcFAcVA
dALTERNATE FORMcQAFcKAFcKHAFcGAFcLAMcMIMcNUNcUMcWAWcOWcEWcHAYcYOTcETx1bCOMBINING HAMZA MARK
cMADDA MARKbHYPHENATION MARKx2bLETTER LAM WITH DOT ABOVEcYOT WITH CIRCUMFLEX ABOVEx78
aOLD SOGDIAN LETTER ALEPHdFINAL ALEPHdBETHdFINAL BETHdGIMELdHEdFINAL HEdWAWdZAYINdHETHdYODHdKAPH
dLAMEDHdMEMdNUNdFINAL NUNfWITH VERTICAL TAILdSAMEKHdAYINdALTERNATE AYINdPEdSADHEdFINAL SADHE
fWITH VERTICAL TAILdRESH-AYIN-DALETHdSHINdTAWdFINAL TAWfWITH VERTICAL TAILcNUMBER ONEdTWOdTHREE
dFOURdFIVEdTENdTWENTYdTHIRTYdONE HUNDREDcFRACTION ONE HALFcLIGATURE AYIN-DALETHx8
aSOGDIAN LETTER ALEPHcBETHcGIMELcHEcWAWcZAYINcHETHcYODHcKAPHcLAMEDHcMEMcNUNcSAMEKHcAYINcPEcSADHE
cRESH-AYINcSHINcTAWcFETHcLESHbINDEPENDENT SHINbCOMBINING DOT BELOWcTWO DOTS BELOWcDOT ABOVE
cTWO DOTS ABOVEcCURVE ABOVEdBELOWcHOOK ABOVEdBELOWcLONG HOOK BELOWcRESH BELOWcSTROKE BELOW
bNUMBER ONEcTENcTWENTYcONE HUNDREDbPUNCTUATION TWO VERTICAL BARSfWITH DOTScCIRCLE WITH DOT
cTWO CIRCLES WITH DOTScHALF CIRCLE WITH DOTx22aOLD UYGHUR LETTER ALEPHdBETHdGIMEL-HETHdWAWdZAYIN
dFINAL HETHdYODHdKAPHdLAMEDHdMEMdNUNdSAMEKHdPEdSADHEdRESHdSHINdTAWdLESHcCOMBINING DOT ABOVEeBELOW
dTWO DOTS ABOVEfBELOWcPUNCTUATION BARdTWO BARSeDOTSdFOUR DOTSx38aCHORASMIAN LETTER ALEPH
cSMALL ALEPHcBETHcGIMELcDALETHcHEcWAWcCURLED WAWcZAYINcHETHcYODHcKAPHcLAMEDHcMEMcNUNcSAMEKHcAYINcPE
cRESHcSHINcTAWbNUMBER ONEcTWOcTHREEcFOURcTENcTWENTYcONE HUNDREDx20aELYMAIC LETTER ALEPHcBETHcGIMEL
cDALETHcHEcWAWcZAYINcHETHcTETHcYODHcKAPHcLAMEDHcMEMcNUNcSAMEKHcAYINcPEcSADHEcQOPHcRESHcSHINcTAW
bLIGATURE ZAYIN-YODHx9aBRAHMI SIGN CANDRABINDUcANUSVARAcVISARGAcJIHVAMULIYAcUPADHMANIYAbLETTER AcAA
cIcIIcUcUUcVOCALIC RdRRdLdLLcEcAIcOcAUcKAcKHAcGAcGHAcNGAcCAcCHAcJAcJHAcNYAcTTAcTTHAcDDAcDDHAcNNAcTA
cTHAcDAcDHAcNAcPAcPHAcBAcBHAcMAcYAcRAcLAcVAcSHAcSSAcSAcHAcLLAcOLD TAMIL LLLAeRRAeNNNAbVOWEL SIGN AA
dBHATTIPROLU AAdIdIIdUdUUdVOCALIC ReRReLeLLdEdAIdOdAUbVIRAMAbDANDAbDOUBLE DANDAbPUNCTUATION DOT
cDOUBLE DOTcLINEcCRESCENT BARcLOTUSx4bNUMBER ONEcTWOcTHREEcFOURcFIVEcSIXcSEVENcEIGHTcNINEcTEN
cTWENTYcTHIRTYcFORTYcFIFTYcSIXTYcSEVENTYcEIGHTYcNINETYcONE HUNDREDdTHOUSANDbDIGIT ZEROcONEcTWO
cTHREEcFOURcFIVEcSIXcSEVENcEIGHTcNINEbSIGN OLD TAMIL VIRAMAbLETTER OLD TAMIL SHORT EfO
bVOWEL SIGN OLD TAMIL SHORT EgObLETTER OLD TAMIL LLAx9bNUMBER JOINERaKAITHI SIGN CANDRABINDU
cANUSVARAcVISARGAbLETTER AcAAcIcIIcUcUUcEcAIcOcAUcKAcKHAcGAcGHAcNGAcCAcCHAcJAcJHAcNYAcTTAcTTHAcDDA
cDDDHAcDDHAcRHAcNNAcTAcTHAcDAcDHAcNAcPAcPHAcBAcBHAcMAcYAcRAcLAcVAcSHAcSSAcSAcHAbVOWEL SIGN AAdIdII
dUdUUdEdAIdOdAUbSIGN VIRAMAcNUKTAbABBREVIATION SIGNbENUMERATION SIGNbNUMBER SIGNbSECTION MARK
bDOUBLE SECTION MARKbDANDAbDOUBLE DANDAbVOWEL SIGN VOCALIC Rx10bNUMBER SIGN ABOVEx2
aSORA SOMPENG LETTER SAHdTAHdBAHdCAHdDAHdGAHdMAHdNGAHdLAHdNAHdVAHdPAHdYAHdRAHdHAHdKAHdJAHdNYAHdAH
dEEHdIHdUHdOHdEHdMAEx7cDIGIT ZEROdONEdTWOdTHREEdFOURdFIVEdSIXdSEVENdEIGHTdNINEx6
aCHAKMA SIGN CANDRABINDUcANUSVARAcVISARGAbLETTER AAcIcUcEcKAAcKHAAcGAAcGHAAcNGAAcCAAcCHAAcJAAcJHAA
cNYAAcTTAAcTTHAAcDDAAcDDHAAcNNAAcTAAcTHAAcDAAcDHAAcNAAcPAAcPHAAcBAAcBHAAcMAAcYYAAcYAAcRAAcLAAcWAA
cSAAcHAAbVOWEL SIGN AdIdIIdUdUUdEdAIdOdAUdOIbO MARKbAU MARKbVIRAMAbMAAYYAAx1bDIGIT ZEROcONEcTWO
cTHREEcFOURcFIVEcSIXcSEVENcEIGHTcNINEbSECTION MARKbDANDAbDOUBLE DANDAbQUESTION MARKbLETTER LHAA
bVOWEL SIGN AAdEIbLETTER VAAx8aMAHAJANI LETTER AcIcUcEcOcKAcKHAcGAcGHAcCAcCHAcJAcJHAcNYAcTTAcTTHA
cDDAcDDHAcNNAcTAcTHAcDAcDHAcNAcPAcPHAcBAcBHAcMAcRAcLAcVAcSAcHAcRRAbSIGN NUKTAbABBREVIATION SIGN
bSECTION MARKbLIGATURE SHRIx9aSHARADA SIGN CANDRABINDUcANUSVARAcVISARGAbLETTER AcAAcIcIIcUcUU
cVOCALIC RdRRdLdLLcEcAIcOcAUcKAcKHAcGAcGHAcNGAcCAcCHAcJAcJHAcNYAcTTAcTTHAcDDAcDDHAcNNAcTAcTHAcDA
cDHAcNAcPAcPHAcBAcBHAcMAcYAcRAcLAcLLAcVAcSHAcSSAcSAcHAbVOWEL SIGN AAdIdIIdUdUUdVOCALIC ReRReLeLLdE
dAIdOdAUbSIGN VIRAMAcAVAGRAHAcJIHVAMULIYAcUPADHMANIYAbOMbDANDAbDOUBLE DANDAbABBREVIATION SIGN
bSEPARATORbSANDHI MARKbSIGN NUKTAbVOWEL MODIFIER MARKbEXTRA SHORT VOWEL MARKbSUTRA MARK
bVOWEL SIGN PRISHTHAMATRA EbSIGN INVERTED CANDRABINDUbDIGIT ZEROcONEcTWOcTHREEcFOURcFIVEcSIXcSEVEN
cEIGHTcNINEbEKAMbSIGN SIDDHAMbHEADSTROKEbCONTINUATION SIGNbSECTION MARK-1cMARK-2x1
aSINHALA ARCHAIC DIGIT ONEdTWOdTHREEdFOURdFIVEdSIXdSEVENdEIGHTdNINEcNUMBER TENdTWENTYdTHIRTYdFORTY
dFIFTYdSIXTYdSEVENTYdEIGHTYdNINETYdONE HUNDREDeTHOUSANDx11aKHOJKI LETTER AcAAcIcUcEcAIcOcAUcKAcKHA
cGAcGGAcGHAcNGAcCAcCHAcJAcJJAx1cNYAcTTAcTTHAcDDAcDDHAcNNAcTAcTHAcDAcDDDAcDHAcNAcPAcPHAcBAcBBAcBHA
cMAcYAcRAcLAcVAcSAcHAcLLAbVOWEL SIGN AAdIdIIdUdEdAIdOdAUbSIGN ANUSVARAcVIRAMAcNUKTAcSHADDAbDANDA
bDOUBLE DANDAbWORD SEPARATORbSECTION MARKbDOUBLE SECTION MARKbABBREVIATION SIGNbSIGN SUKUNx65
aMULTANI LETTER AcIcUcEcKAcKHAcGAx1cGHAx1cCAcCHAcJAcJJAx1cNYAcTTAcTTHAcDDAcDDDAcDDHAcNNAcTAcTHAcDA
cDHAcNAcPAcPHAcBAx1cBHAcMAcYAcRAcLAcVAcSAcHAcRRAcRHAbSECTION MARKx6aKHUDAWADI LETTER AcAAcIcIIcUcUU
cEcAIcOcAUcKAcKHAcGAcGGAcGHAcNGAcCAcCHAcJAcJJAcJHAcNYAcTTAcTTHAcDDAcDDDAcRRAcDDHAcNNAcTAcTHAcDAcDHA
cNAcPAcPHAcBAcBBAcBHAcMAcYAcRAcLAcVAcSHAcSAcHAbSIGN ANUSVARAbVOWEL SIGN AAdIdIIdUdUUdEdAIdOdAU
bSIGN NUKTAcVIRAMAx5bDIGIT ZEROcONEcTWOcTHREEcFOURcFIVEcSIXcSEVENcEIGHTcNINEx6
aGRANTHA SIGN COMBINING ANUSVARA ABOVEcCANDRABINDUcANUSVARAcVISARGAx1bLETTER AcAAcIcIIcUcUU
cVOCALIC RdLx2cEEcAIx2cOOcAUcKAcKHAcGAcGHAcNGAcCAcCHAcJAcJHAcNYAcTTAcTTHAcDDAcDDHAcNNAcTAcTHAcDA
cDHAcNAx1cPAcPHAcBAcBHAcMAcYAcRAx1cLAcLLAx1cVAcSHAcSSAcSAcHAx1aCOMBINING BINDU BELOW
aGRANTHA SIGN NUKTAcAVAGRAHAbVOWEL SIGN AAdIdIIdUdUUdVOCALIC ReRRx2dEEdAIx2dOOdAUbSIGN VIRAMAx2bOM
x6bAU LENGTH MARKx5bSIGN PLUTAbLETTER VEDIC ANUSVARAdDOUBLE ANUSVARAcVOCALIC RRdLL
bVOWEL SIGN VOCALIC LeLLx2aCOMBINING GRANTHA DIGIT ZEROdONEdTWOdTHREEdFOURdFIVEdSIXx3cLETTER AdKA
dNAdVIdPAx139aNEWA LETTER AcAAcIcIIcUcUUcVOCALIC RdRRdLdLLcEcAIcOcAUcKAcKHAcGAcGHAcNGAcNGHAcCAcCHA
cJAcJHAcNYAcNYHAcTTAcTTHAcDDAcDDHAcNNAcTAcTHAcDAcDHAcNAcNHAcPAcPHAcBAcBHAcMAcMHAcYAcRAcRHAcLAcLHA
cWAcSHAcSSAcSAcHAbVOWEL SIGN AAdIdIIdUdUUdVOCALIC ReRReLeLLdEdAIdOdAUbSIGN VIRAMAcCANDRABINDU
cANUSVARAcVISARGAcNUKTAcAVAGRAHAcFINAL ANUSVARAbOMbSIDDHIbDANDAbDOUBLE DANDAbCOMMAbGAP FILLER
bABBREVIATION SIGNbDIGIT ZEROcONEcTWOcTHREEcFOURcFIVEcSIXcSEVENcEIGHTcNINEbDOUBLE COMMA
bPLACEHOLDER MARKx1bINSERTION SIGNbSANDHI MARKbLETTER VEDIC ANUSVARAbSIGN JIHVAMULIYAcUPADHMANIYA
x30aTIRHUTA ANJIbLETTER AcAAcIcIIcUcUUcVOCALIC RdRRdLdLLcEcAIcOcAUcKAcKHAcGAcGHAcNGAcCAcCHAcJAcJHA
cNYAcTTAcTTHAcDDAcDDHAcNNAcTAcTHAcDAcDHAcNAcPAcPHAcBAcBHAcMAcYAcRAcLAcVAcSHAcSSAcSAcHA
bVOWEL SIGN AAdIdIIdUdUUdVOCALIC ReRReLeLLdEdSHORT EdAIdOdSHORT OdAUbSIGN CANDRABINDUcANUSVARA
cVISARGAcVIRAMAcNUKTAcAVAGRAHAbGVANGbABBREVIATION SIGNbOMx8bDIGIT ZEROcONEcTWOcTHREEcFOURcFIVEcSIX
cSEVENcEIGHTcNINEx166aSIDDHAM LETTER AcAAcIcIIcUcUUcVOCALIC RdRRdLdLLcEcAIcOcAUcKAcKHAcGAcGHAcNGA
cCAcCHAcJAcJHAcNYAcTTAcTTHAcDDAcDDHAcNNAcTAcTHAcDAcDHAcNAcPAcPHAcBAcBHAcMAcYAcRAcLAcVAcSHAcSSAcSA
cHAbVOWEL SIGN AAdIdIIdUdUUdVOCALIC ReRRx2dEdAIdOdAUbSIGN CANDRABINDUcANUSVARAcVISARGAcVIRAMAcNUKTA
cSIDDHAMbDANDAbDOUBLE DANDAbSEPARATOR DOTcBARbREPETITION MARK-1cMARK-2cMARK-3bEND OF TEXT MARK
bSECTION MARK WITH TRIDENT AND U-SHAPED ORNAMENTSgDOTTED CRESCENTSeRAYS AND DOTTED CRESCENTS
hDOUBLE CRESCENTShTRIPLE CRESCENTSdDOUBLE RINGfWITH RAYSdWITH DOUBLE CRESCENTSeTRIPLE CRESCENTS
eQUADRUPLE CRESCENTSeSEPTUPLE CRESCENTSeCIRCLES AND RAYSgTWO ENCLOSURESgFOUR ENCLOSURES
bLETTER THREE-CIRCLE ALTERNATE IcTWO-CIRCLE ALTERNATE IeIIcALTERNATE UbVOWEL SIGN ALTERNATE UeUUx34
aMODI LETTER AcAAcIcIIcUcUUcVOCALIC RdRRdLdLLcEcAIcOcAUcKAcKHAcGAcGHAcNGAcCAcCHAcJAcJHAcNYAcTTA
cTTHAcDDAcDDHAcNNAcTAcTHAcDAcDHAcNAcPAcPHAcBAcBHAcMAcYAcRAcLAcVAcSHAcSSAcSAcHAcLLAbVOWEL SIGN AAdI
dIIdUdUUdVOCALIC ReRReLeLLdEdAIdOdAUbSIGN ANUSVARAcVISARGAcVIRAMAcARDHACANDRAbDANDAbDOUBLE DANDA
bABBREVIATION SIGNbSIGN HUVAx11bDIGIT ZEROcONEcTWOcTHREEcFOURcFIVEcSIXcSEVENcEIGHTcNINEx6
aMONGOLIAN BIRGA WITH ORNAMENTbROTATED BIRGAbDOUBLE BIRGA WITH ORNAMENTbTRIPLE BIRGA WITH ORNAMENT
bBIRGA WITH DOUBLE ORNAMENTbROTATED BIRGA WITH ORNAMENTeDOUBLE ORNAMENTbINVERTED BIRGA
dWITH DOUBLE ORNAMENTbSWIRL BIRGAdWITH ORNAMENTeDOUBLE ORNAMENT
bTURNED SWIRL BIRGA WITH DOUBLE ORNAMENTx19aTAKRI LETTER AcAAcIcIIcUcUUcEcAIcOcAUcKAcKHAcGAcGHAcNGA
cCAcCHAcJAcJHAcNYAcTTAcTTHAcDDAcDDHAcNNAcTAcTHAcDAcDHAcNAcPAcPHAcBAcBHAcMAcYAcRAcLAcVAcSHAcSAcHA
cRRAbSIGN ANUSVARAcVISARGAbVOWEL SIGN AAdIdIIdUdUUdEdAIdOdAUbSIGN VIRAMAcNUKTAbLETTER ARCHAIC KHA
bABBREVIATION SIGNx6bDIGIT ZEROcONEcTWOcTHREEcFOURcFIVEcSIXcSEVENcEIGHTcNINEx54aAHOM LETTER KAcKHA
cNGAcNAcTAcALTERNATE TAcPAcPHAcBAcMAcJAcCHAcTHAcRAcLAcSAcNYAcHAcAcDAcDHAcGAcALTERNATE GAcGHAcBHA
cJHAcALTERNATE BAx2bCONSONANT SIGN MEDIAL LAeRAeLIGATING RAbVOWEL SIGN AdAAdIdIIdUdUUdEdAWdOdAIdAM
bSIGN KILLERx4bDIGIT ZEROcONEcTWOcTHREEcFOURcFIVEcSIXcSEVENcEIGHTcNINEbNUMBER TENcTWENTY
bSIGN SMALL SECTIONcSECTIONcRULAIbSYMBOL VIbLETTER CAcTTAcTTHAcDDAcDDHAcNNAcLLAx185aDOGRA LETTER A
cAAcIcIIcUcUUcEcAIcOcAUcKAcKHAcGAcGHAcNGAcCAcCHAcJAcJHAcNYAcTTAcTTHAcDDAcDDHAcNNAcTAcTHAcDAcDHAcNA
cPAcPHAcBAcBHAcMAcYAcRAcLAcVAcSHAcSSAcSAcHAcRRAbVOWEL SIGN AAdIdIIdUdUUdVOCALIC ReRRdEdAIdOdAU
bSIGN ANUSVARAcVISARGAcVIRAMAcNUKTAbABBREVIATION SIGNx100aWARANG CITI CAPITAL LETTER NGAAeAeWIeYU
eYAeYOeIIeUUeEeOeANGeGAeKOeENYeYUJeUCeENNeODDeTTEeNUNGeDAeATeAMeBUePUeHIYOeHOLOeHORReHAReSSUUeSII
eVIYOcSMALL LETTER NGAAeAeWIeYUeYAeYOeIIeUUeEeOeANGeGAeKOeENYeYUJeUCeENNeODDeTTEeNUNGeDAeATeAMeBU
ePUeHIYOeHOLOeHORReHAReSSUUeSIIeVIYOcDIGIT ZEROdONEdTWOdTHREEdFOURdFIVEdSIXdSEVENdEIGHTdNINE
cNUMBER TENdTWENTYdTHIRTYdFORTYdFIFTYdSIXTYdSEVENTYdEIGHTYdNINETYx12cOMaDIVES AKURU LETTER AdAAdI
dIIdUdUUdEx2dOx2dKAdKHAdGAdGHAdNGAdCAdCHAdJAx1dNYAdTTAx1dDDAdDDHAdNNAdTAdTHAdDAdDHAdNAdPAdPHAdBA
dBHAdMAdYAdYYAdRAdLAdVAdSHAdSSAdSAdHAdLLAdZAcVOWEL SIGN AAeIeIIeUeUUeEx1eAIeOx2cSIGN ANUSVARA
dCANDRABINDUdHALANTAcVIRAMAcPREFIXED NASAL SIGNcMEDIAL YAcINITIAL RAcMEDIAL RAcSIGN NUKTA
cDOUBLE DANDAcGAP FILLERcEND OF TEXT MARKx9cDIGIT ZEROdONEdTWOdTHREEdFOURdFIVEdSIXdSEVENdEIGHTdNINE
x70aNANDINAGARI LETTER AcAAcIcIIcUcUUcVOCALIC RdRRx2cEcAIcOcAUcKAcKHAcGAcGHAcNGAcCAcCHAcJAcJHAcNYA
cTTAcTTHAcDDAcDDHAcNNAcTAcTHAcDAcDHAcNAcPAcPHAcBAcBHAcMAcYAcRAcLAcVAcSHAcSSAcSAcHAcLLAcRRA
bVOWEL SIGN AAdIdIIdUdUUdVOCALIC ReRRx2dEdAIdOdAUbSIGN ANUSVARAcVISARGAcVIRAMAcAVAGRAHAcSIDDHAM
bHEADSTROKEbVOWEL SIGN PRISHTHAMATRA Ex27aZANABAZAR SQUARE LETTER AcVOWEL SIGN IeUEeUeEeOEeOeAIeAU
eREVERSED IdLENGTH MARKcLETTER KAdKHAdGAdGHAdNGAdCAdCHAdJAdNYAdTTAdTTHAdDDAdDDHAdNNAdTAdTHAdDAdDHA
dNAdPAdPHAdBAdBHAdMAdTSAdTSHAdDZAdDZHAdZHAdZAd-AdYAdRAdLAdVAdSHAdSSAdSAdHAdKSSA
cFINAL CONSONANT MARKcSIGN VIRAMAdCANDRABINDUeWITH ORNAMENTdCANDRA WITH ORNAMENTdANUSVARAdVISARGA
cCLUSTER-INITIAL LETTER RAcCLUSTER-FINAL LETTER YAeRAeLAeVAcINITIAL HEAD MARKcCLOSING HEAD MARK
cMARK TSHEGdSHADdDOUBLE SHADdLONG TSHEGcINITIAL DOUBLE-LINED HEAD MARK
cCLOSING DOUBLE-LINED HEAD MARKcSUBJOINERx8aSOYOMBO LETTER AbVOWEL SIGN IdUEdUdEdOdOEdAIdAU
dVOCALIC ReLcLENGTH MARKbLETTER KAcKHAcGAcGHAcNGAcCAcCHAcJAcJHAcNYAcTTAcTTHAcDDAcDDHAcNNAcTAcTHAcDA
cDHAcNAcPAcPHAcBAcBHAcMAcTSAcTSHAcDZAcZHAcZAc-AcYAcRAcLAcVAcSHAcSSAcSAcHAcKSSAbSIGN JIHVAMULIYA
cUPADHMANIYAbCLUSTER-INITIAL LETTER RAdLAdSHAdSAbFINAL CONSONANT SIGN GeKeNGeDeNeBeMeReLeSHeSe-A
bSIGN ANUSVARAcVISARGAbGEMINATION MARKbSUBJOINERbMARK TSHEGcSHADcDOUBLE SHADcPLUTA
bHEAD MARK WITH MOON AND SUN AND TRIPLE FLAMEiFLAMEgSUNbTERMINAL MARK-1cMARK-2x13
aCANADIAN SYLLABICS NATTILIK HIdHIIdHOdHOOdHAdHAAdSHRIdSHRIIdSHROdSHROOdSHRAdSHRAAcSPEcSPIcSPOcSPA
aPAU CIN HAU LETTER PAeKAeLAeMAeDAeZAeVAeNGAeHAeGAeKHAeSAeBAeCAeTAeTHAeNAePHAeRAeFAeCHAeAeEeIeOeU
eUAeIAeFINAL PfKfTfMfNfLfWfNGfYdRISING TONE LONGeTONEdSANDHI GLOTTAL STOPdRISING TONE LONG FINAL
fFINALdSANDHI GLOTTAL STOP FINALeTONE LONGeTONEfLONG FINALfFINALdMID-LEVEL TONE
dGLOTTAL STOP VARIANTdMID-LEVEL TONE LONG FINALfFINALdLOW-FALLING TONE LONGeTONEdGLOTTAL STOP
dLOW-FALLING TONE LONG FINALfFINALdGLOTTAL STOP FINALx263aBHAIKSUKI LETTER AcAAcIcIIcUcUUcVOCALIC R
dRRdLx1cEcAIcOcAUcKAcKHAcGAcGHAcNGAcCAcCHAcJAcJHAcNYAcTTAcTTHAcDDAcDDHAcNNAcTAcTHAcDAcDHAcNAcPAcPHA
cBAcBHAcMAcYAcRAcLAcVAcSHAcSSAcSAcHAbVOWEL SIGN AAdIdIIdUdUUdVOCALIC ReRReLx1dEdAIdOdAU
bSIGN CANDRABINDUcANUSVARAcVISARGAcVIRAMAcAVAGRAHAbDANDAbDOUBLE DANDAbWORD SEPARATORbGAP FILLER-1
cFILLER-2x10bDIGIT ZEROcONEcTWOcTHREEcFOURcFIVEcSIXcSEVENcEIGHTcNINEbNUMBER ONEcTWOcTHREEcFOURcFIVE
cSIXcSEVENcEIGHTcNINEcTENcTWENTYcTHIRTYcFORTYcFIFTYcSIXTYcSEVENTYcEIGHTYcNINETYbHUNDREDS UNIT MARK
x3aMARCHEN HEAD MARKbMARK SHADbLETTER KAcKHAcGAcNGAcCAcCHAcJAcNYAcTAcTHAcDAcNAcPAcPHAcBAcMAcTSA
cTSHAcDZAcWAcZHAcZAc-AcYAcRAcLAcSHAcSAcHAcAx2bSUBJOINED LETTER KAdKHAdGAdNGAdCAdCHAdJAdNYAdTAdTHA
dDAdNAdPAdPHAdBAdMAdTSAdTSHAdDZAdWAdZHAdZAx1dYAdRAdLAdSHAdSAdHAdAbVOWEL SIGN AAdIdUdEdO
bSIGN ANUSVARAcCANDRABINDUx73aMASARAM GONDI LETTER AdAAdIdIIdUdUUdEx1dAIdOx1dAUdKAdKHAdGAdGHAdNGA
dCAdCHAdJAdJHAdNYAdTTAdTTHAdDDAdDDHAdNNAdTAdTHAdDAdDHAdNAdPAdPHAdBAdBHAdMAdYAdRAdLAdVAdSHAdSSAdSA
dHAdLLAdKSSAdJNYAdTRAcVOWEL SIGN AAeIeIIeUeUUeVOCALIC Rx3eEx1eAIeOx1eAUcSIGN ANUSVARAdVISARGAdNUKTA
dCANDRAdHALANTAcVIRAMAcREPHAcRA-KARAx8cDIGIT ZEROdONEdTWOdTHREEdFOURdFIVEdSIXdSEVENdEIGHTdNINEx6
aGUNJALA GONDI LETTER AdAAdIdIIdUdUUx1dEEdAIx1dOOdAUdYAdVAdBAdBHAdMAdKAdKHAdTAdTHAdLAdGAdGHAdDAdDHA
dNAdCAdCHAdTTAdTTHAdLLAdJAdJHAdDDAdDDHAdNGAdPAdPHAdHAdRAdSAcVOWEL SIGN AAeIeIIeUeUUx1eEEeAIx1eOOeAU
cSIGN ANUSVARAdVISARGAcVIRAMAcOMx7cDIGIT ZEROdONEdTWOdTHREEdFOURdFIVEdSIXdSEVENdEIGHTdNINEx310
aMAKASAR LETTER KAcGAcNGAcPAcBAcMAcTAcDAcNAcCAcJAcNYAcYAcRAcLAcVAcSAcAbANGKAbVOWEL SIGN IdUdEdO
bPASSIMBANGbEND OF SECTIONx183aLISU LETTER YHAx15aTAMIL FRACTION ONE THREE-HUNDRED-AND-TWENTIETH
dONE-HUNDRED-AND-SIXTIETHdEIGHTIETHdSIXTY-FOURTHdFORTIETHdTHIRTY-SECONDcTHREE EIGHTIETHS
dSIXTY-FOURTHScONE TWENTIETHdSIXTEENTH-1dSIXTEENTH-2dTENTHdEIGHTHcTHREE TWENTIETHSdSIXTEENTHS
cONE FIFTHdQUARTERdHALF-1dHALF-2cTHREE QUARTERScDOWNSCALING FACTOR KIIZHbSIGN NELcCEVITUcAAZHAAKKU
cUZHAKKUcMUUVUZHAKKUcKURUNIcPATHAKKUcMUKKURUNIcKAACUcPANAMcPONcVARAAKANcPAARAMcKUZHIcVELI
bWET CULTIVATION SIGNbDRY CULTIVATION SIGNbLAND SIGNbSALT PAN SIGNbTRADITIONAL CREDIT SIGN
cNUMBER SIGNbCURRENT SIGNbAND ODD SIGNbSPENT SIGNbTOTAL SIGNbIN POSSESSION SIGNbSTARTING FROM SIGN
bSIGN MUTHALIYAcVAKAIYARAAx13bPUNCTUATION END OF TEXTaCUNEIFORM SIGN AdTIMES AeBADeGAN2 TENUeHAeIGI
eLAGAR GUNUeMUSHeSAGcA2cABdTIMES ASH2eDUN3 GUNUeGALeGAN2 TENUeHAeIGI GUNUeIMINeLAGABeSHESH
eU PLUS U PLUS UdGUNUcAB2dTIMES BALAGeGAN2 TENUeME PLUS ENeSHA3eTAK4cADcAKdTIMES ERIN2
eSHITA PLUS GISHcALdTIMES ALeDIM2eGISHeHAeKAD3eKIeSHEeUSHcALANcALEPHcAMARdTIMES SHEcANdOVER AN
dTHREE TIMESdPLUS NAGA OPPOSING AN PLUS NAGAfSQUAREDcANSHEcAPINcARADdTIMES KURcARKABcASAL2cASH
dZIDA TENUdKABA TENUdOVER ASH TUG2 OVER TUG2 TUG2 OVER TUG2 PAPfOVER ASH
hCROSSING ASH OVER ASH OVER ASHcASH2cASHGABcBAcBADcBAG3cBAHAR2cBALdOVER BALcBALAGcBARcBARA2cBI
dTIMES AeGAReIGI GUNUcBUdOVER BU ABfUNdCROSSING BUcBULUGdOVER BULUGcBURcBUR2cDAcDAG
dKISIM5 TIMES A PLUS MASHfAMARfBALAGfBIfGAgPLUS MASHfGIfGIR2fGUDfHAfIRgPLUS LUfKAKfLAfLUgPLUS MASH2
fLUMfNEfPAP PLUS PAPfSIfTAK4fU2 PLUS GIR2fUSHcDAMcDARcDARA3cDARA4cDIcDIBcDIMdTIMES SHEcDIM2cDIN
dKASKAL U GUNU DISHcDISHcDUdOVER DUdGUNUdSHESHIGcDUBdTIMES ESH2cDUB2cDUGcDUGUDcDUHcDUNcDUN3dGUNU
eGUNUcDUN4cDUR2cEdTIMES PAPdOVER E NUN OVER NUNcE2dTIMES A PLUS HA PLUS DAeGAReMIeSALeSHEeUcEDIN
cEGIRcELcENdTIMES GAN2fTENUeMEdCROSSING ENdOPPOSING ENdSQUAREDcERENcERIN2cESH2cEZENdTIMES A
fPLUS LALhTIMES LALeANeBADeDUN3 GUNUgGUNUeHAfGUNUeIGI GUNUeKASKALfSQUAREDeKU3eLAeLAL TIMES LALeLI
eLUeU2eUDcGAdGUNUcGA2dTIMES A PLUS DA PLUS HAgHAgIGIeAB2 TENU PLUS TABeANeASHeASH2 PLUS GALeBAD
eBAR PLUS RAeBURfPLUS RAeDAeDIeDIM TIMES SHEeDUBeELfPLUS LAeENfTIMES GAN2 TENUeGAN2 TENUeGAReGIeGI4
fPLUS AeGIR2 PLUS SUeHA PLUS LU PLUS ESH2eHALfPLUS LAeHI PLUS LIeHUB2eIGI GUNUeISH PLUS HU PLUS ASH
eKAKeKASKALeKIDfPLUS LALeKU3 PLUS ANeLAeME PLUS ENeMIeNUNfOVER NUNePAeSALeSAReSHEfPLUS TUReSHIDeSUM
eTAK4eUeUDfPLUS DUdOVER GA2cGABAdCROSSING GABAcGADdOVER GAD GAR OVER GARcGAL
dGAD OVER GAD GAR OVER GARcGALAMcGAMcGANcGAN2dTENUdOVER GAN2dCROSSING GAN2cGARcGAR3cGASHANcGESHTIN
dTIMES KURcGIdTIMES EeUdCROSSING GIcGI4dOVER GI4dCROSSING GI4cGIDIMcGIR2dGUNUcGIR3dTIMES A PLUS IGI
eGAN2 TENUeIGIeLU PLUS IGIePAcGISALcGISHdCROSSING GISHdTIMES BADeTAK4dTENUcGUdCROSSING GUcGU2
dTIMES KAKfTIMES IGI GUNUeNUNeSAL PLUS TUG2dGUNUcGUDdTIMES A PLUS KUReKURdOVER GUD LUGALcGULcGUM
dTIMES SHEcGURcGUR7cGURUNcGURUSHcHAdTENUdGUNUcHALcHIdTIMES ASHeASH2eBADeDISHeGADeKINeNUNeSHEeUcHU
cHUB2dTIMES ANeHALeKASKALeLISHeUDcHUL2cIdAcIBcIDIMdOVER IDIM BURfSQUAREDcIGcIGIdDIBdRI
dOVER IGI SHIR OVER SHIR UD OVER UDdGUNUcILdTIMES GAN2 TENUcIL2cIMdTIMES TAK4dCROSSING IM
dOPPOSING IMdSQUAREDcIMINcINcIRcISHcKAdTIMES AeADfPLUS KU3eASH2eBADeBALAGeBAReBIeERIN2eESH2eGAeGAL
eGAN2 TENUeGARfPLUS SHA3 PLUS AeGIeGIR2eGISH PLUS SARfCROSSING GISHeGUeGUR7eIGIeIMeKAKeKIeKIDeLIeLU
eMEfPLUS DUgGIgTEeMIfPLUS NUNUZeNEeNUNePIeRUeSAeSAReSHAeSHEeSHIDeSHUeSIGeSUHUReTAReUeU2eUD
eUMUM TIMES PAeUSHeZIcKA2dCROSSING KA2cKABcKAD2cKAD3cKAD4cKAD5dOVER KAD5cKAKdTIMES IGI GUNUcKAL
dTIMES BADdCROSSING KALcKAM2cKAM4cKASKALdLAGAB TIMES U OVER LAGAB TIMES U
dOVER KASKAL LAGAB TIMES U OVER LAGAB TIMES UcKESH2cKIdTIMES BADeUeUDcKIDcKINcKISALcKISHcKISIM5
dOVER KISIM5cKUdOVER HI TIMES ASH2 KU OVER HI TIMES ASH2cKU3cKU4dVARIANT FORMcKU7cKULdGUNUcKUNcKUR
dOPPOSING KURcKUSHU2cKWU318cLAcLAGABdTIMES AfPLUS DA PLUS HAgGARgLALeALeANeASH ZIDA TENUeBADeBIeDAR
eENeGAeGAReGUDfPLUS GUDeHAeHALeHI TIMES NUNeIGI GUNUeIMfPLUS HAgLUeKIeKINeKU3eKULfPLUS HI PLUS A
eLAGABeLISHeLUeLULeMEfPLUS ENeMUSHeNEeSHE PLUS SUMeSHITA PLUS GISH PLUS ERIN2hTENUeSHU2fPLUS SHU2
eSUMeTAGeTAK4eTE PLUS A PLUS SU PLUS NAeUfPLUS AgU PLUS UeU2 PLUS ASHeUDeUSHdSQUAREDcLAGAR
dTIMES SHEfPLUS SUMdGUNUeOVER LAGAR GUNU SHEcLAHSHUcLALdTIMES LALcLAMdTIMES KURfPLUS RUcLIcLIL
cLIMMU2cLISHcLUdTIMES BADcLU2dTIMES ALeBADeESH2fTENUeGAN2 TENUeHI TIMES BADeIMeKAD2eKAD3fPLUS ASH
eKIeLA PLUS ASHeLAGABeME PLUS ENeNEeNUeSI PLUS ASHeSIK2 PLUS BUeTUG2dTENUdCROSSING LU2dOPPOSING LU2
dSQUAREDdSHESHIGcLU3cLUGALdOVER LUGALdOPPOSING LUGALdSHESHIGcLUHcLULcLUMdOVER LUMfGAR OVER GARcMA
dTIMES TAK4dGUNUcMA2cMAHcMARcMASHcMASH2cMEcMEScMIcMINcMUdOVER MUcMUGdGUNUcMUNSUBcMURGU2cMUSH
dTIMES AeKUReZAdOVER MUSHfTIMES A PLUS NAdCROSSING MUSHcMUSH3dTIMES AfPLUS DIeDIdGUNUcNAcNA2cNAGA
dINVERTEDdTIMES SHU TENUdOPPOSING NAGAcNAGARcNAM NUTILLUcNAMcNAM2cNEdTIMES AeUDdSHESHIGcNIdTIMES E
cNI2cNIMdTIMES GAN2 TENUeGAR PLUS GAN2 TENUcNINDA2dTIMES ANeASHfPLUS ASHeGUDeME PLUS GAN2 TENUeNE
eNUNeSHEfPLUS A ANgASHhPLUS ASHeU2 PLUS ASHeUSHcNISAGcNUcNU11cNUNdLAGAR TIMES GARfMASHfSAL
gOVER NUN LAGAR TIMES SALfUSHdTENUdOVER NUNdCROSSING NUNfLAGAR OVER LAGARcNUNUZdAB2 TIMES ASHGABfBI
fDUGfGUDfIGI GUNUfKAD3fLAfNEfSILA3fU2dKISIM5 TIMES BIgUcPAcPADcPANcPAPcPESH2cPIdTIMES AeABeBIeBUeE
eIeIBeUeU2dCROSSING PIcPIRIGdTIMES KALeUDeZAdOPPOSING PIRIGcRAcRABcRIcRUcSAcSAG NUTILLUcSAGdTIMES A
eDUeDUBeHAeKAKeKUReLUMeMIeNUNeSALeSHIDeTABeU2eUBeUMeUReUSHdOVER SAGdGUNUcSALdLAGAB TIMES ASH2
cSANGA2cSARcSHAcSHA3dTIMES AeBADeGISHeNEeSHU2eTUReUfPLUS AcSHA6cSHAB6cSHAR2cSHEdHU
dOVER SHE GAD OVER GAD GAR OVER GARfTAB OVER TAB GAR OVER GARcSHEG9cSHENcSHESHcSHESH2cSHESHLAMcSHID
dTIMES AeIMcSHIMdTIMES AeBALeBULUGeDINeGAReIGIfGUNUeKUSHU2eLULeMUGeSALcSHINIGcSHIRdTENU
dOVER SHIR BUR OVER BURcSHITAcSHUdOVER INVERTED SHUcSHU2cSHUBURcSIdGUNUcSIGcSIG4dOVER SIG4 SHU2
cSIK2cSILA3cSUdOVER SUcSUDcSUD2cSUHURcSUMcSUMASHcSURcSUR9cTAdASTERISKdTIMES HIeMIdGUNUcTAB
dOVER TAB NI OVER NI DISH OVER DISHdSQUAREDcTAGdTIMES BIeGUDeSHEeSHUeTUG2eUDcTAK4cTARcTEdGUNUcTI
dTENUcTILcTIRdTIMES TAK4dOVER TIRfGAD OVER GAD GAR OVER GARcTUcTUG2cTUKcTUMcTURdOVER TUR ZA OVER ZA
cUdGUDdU UdOVER U PA OVER PA GAR OVER GARfSUR OVER SURfU REVERSED OVER U REVERSEDcU2cUBcUDdKUSHU2
dTIMES BADeMIeU PLUS U PLUS UjGUNUdGUNUdSHESHIGeTIMES BADcUDUGcUMdTIMES LAGABeME PLUS DAeSHA3eU
cUMBINcUMUMdTIMES KASKALePAcUNdGUNUcURdCROSSING URdSHESHIGcUR2dTIMES A PLUS HAgNAeALeHAeNUNeU2
fPLUS ASHgBIcUR4cURIcURI3cURUdTIMES AeASHGABeBAReDUNeGAeGALeGAN2 TENUeGAReGUeHAeIGIeIMeISHeKIeLUM
eMINePAeSHEeSIG4eTUeU PLUS GUDeUDeURUDAcURUDAdTIMES UcUSHdTIMES AeKUeKUReTAK4cUSHXcUSH2cUSHUMX
cUTUKIcUZ3dTIMES KASKALcUZUcZAdTENUdSQUARED TIMES KURcZAGcZAMXcZE2cZIdOVER ZIcZI3cZIBdKABA TENUcZIG
cZIZ2cZUcZU5dTIMES AcZUBURcZUMcKAP ELAMITEcAB TIMES NUNcAB2 TIMES AcAMAR TIMES KUG
cDAG KISIM5 TIMES U2 PLUS MASHcDAG3cDISH PLUS SHUcDUB TIMES SHEcEZEN TIMES GUDeSHE
cGA2 TIMES AN PLUS KAK PLUS AeASH2cGE22cGIGcHUSHcKA TIMES ANSHEeASH3eGISHeGUDeHI TIMES ASH2eLUMePA
eSHULeTUeUR2cLAGAB TIMES GIcLU2 SHESHIG TIMES BADdTIMES ESH2 PLUS LALeSHUcMESHcMUSH3 TIMES ZAcNA4
cNINcNIN9cNINDA2 TIMES BALeGIcNU11 ROTATED NINETY DEGREEScPESH2 ASTERISKcPIR2cSAG TIMES IGI GUNU
cTI2cUM TIMES MEcU Ux102bNUMERIC SIGN TWO ASHdTHREE ASHdFOUR ASHdFIVE ASHdSIX ASHdSEVEN ASH
dEIGHT ASHdNINE ASHdTHREE DISHdFOUR DISHdFIVE DISHdSIX DISHdSEVEN DISHdEIGHT DISHdNINE DISHdFOUR U
dFIVE UdSIX UdSEVEN UdEIGHT UdNINE UdONE GESH2dTWO GESH2dTHREE GESH2dFOUR GESH2dFIVE GESH2
dSIX GESH2dSEVEN GESH2dEIGHT GESH2dNINE GESH2dONE GESHUdTWO GESHUdTHREE GESHUdFOUR GESHUdFIVE GESHU
dTWO SHAR2dTHREE SHAR2fVARIANT FORMdFOUR SHAR2dFIVE SHAR2dSIX SHAR2dSEVEN SHAR2dEIGHT SHAR2
dNINE SHAR2dONE SHARUdTWO SHARUdTHREE SHARUfVARIANT FORMdFOUR SHARUdFIVE SHARU
dSHAR2 TIMES GAL PLUS DISHhMINdONE BURUdTWO BURUdTHREE BURUfVARIANT FORMdFOUR BURUdFIVE BURU
dTHREE VARIANT FORM ESH16gESH21dFOUR VARIANT FORM LIMMUgLIMMU4gLIMMU AhBdSIX VARIANT FORM ASH9
dSEVEN VARIANT FORM IMIN3gIMIN AhBdEIGHT VARIANT FORM USSUgUSSU3dNINE VARIANT FORM ILIMMUgILIMMU3
gILIMMU4gILIMMU AdTWO ASH TENUdTHREE ASH TENUdFOUR ASH TENUdFIVE ASH TENUdSIX ASH TENUdONE BAN2
dTWO BAN2dTHREE BAN2dFOUR BAN2fVARIANT FORMdFIVE BAN2fVARIANT FORMdNIGIDAMINdNIGIDAESHdONE ESHE3
dTWO ESHE3dONE THIRD DISHdTWO THIRDS DISHdFIVE SIXTHS DISHdONE THIRD VARIANT FORM A
dTWO THIRDS VARIANT FORM AdONE EIGHTH ASHeQUARTER ASHdOLD ASSYRIAN ONE SIXTHgQUARTER
dONE QUARTER GUReHALF GURdELAMITE ONE THIRDeTWO THIRDSeFORTYeFIFTYdFOUR U VARIANT FORM
dFIVE U VARIANT FORMdSIX U VARIANT FORMdSEVEN U VARIANT FORMdEIGHT U VARIANT FORM
dNINE U VARIANT FORMx1bPUNCTUATION SIGN OLD ASSYRIAN WORD DIVIDERdVERTICAL COLONdDIAGONAL COLON
eTRICOLONeQUADCOLONx11bSIGN AB TIMES NUN TENUeSHU2cAD TIMES ESH2cBAD TIMES DISH TENU
cBAHAR2 TIMES AB2eNIeZAcBU OVER BU TIMES NA2cDA TIMES TAK4cDAG TIMES KURcDIM TIMES IGIeU U U
cDIM2 TIMES UDcDUG TIMES ANSHEeASHfAT LEFTeDINeDUNeERIN2eGAeGIeGIR2 GUNUeGISHeHAeHIeIGI GUNUeKASKAL
eKUReKUSHU2fPLUS KASKALeLAK-020eLAMfTIMES KUReLUH PLUS GISHeMASHeMESeMIeNIePIeSHEeSI GUNU
cE2 TIMES KURePAPcERIN2 XcESH2 CROSSING ESH2cEZEN SHESHIG TIMES ASHfHIfIGI GUNUfLAfLALfMEfMESfSU
dTIMES SUcGA2 TIMES BAHAR2eDIM GUNUeDUG TIMES IGI GUNUgKASKALeERENeGAeGAR PLUS DIgNEeHA PLUS A
eKUSHU2 PLUS KASKALeLAMfTIMES KUReLUHeMUSHeNEfPLUS E2gGIeSHIMeZIZ2cGABA ROTATED NINETY DEGREES
cGESHTIN TIMES UcGISH TIMES GISH CROSSING GISHcGU2 TIMES IGI GUNUcGUD PLUS GISH TIMES TAK4
cHA TENU GUNUcHI TIMES ASH OVER HI TIMES ASHcKA TIMES BUeKAeU U UeURcLAGAB TIMES ZU OVER ZUcLAK-003
cLAK-021cLAK-025cLAK-030cLAK-050cLAK-051cLAK-062cLAK-079 OVER LAK-079 GUNUcLAK-080
cLAK-081 OVER LAK-081cLAK-092cLAK-130cLAK-142cLAK-210cLAK-219cLAK-220cLAK-225cLAK-228cLAK-238
cLAK-265cLAK-266cLAK-343cLAK-347cLAK-348cLAK-383cLAK-384cLAK-390cLAK-441cLAK-449dTIMES GUeIGI
ePAP PLUS LU3gPAP PLUS LU3eU2 PLUS BAcLAK-450cLAK-457cLAK-470cLAK-483cLAK-490cLAK-492cLAK-493
cLAK-495cLAK-550cLAK-608cLAK-617dTIMES ASHeBADeDUN3 GUNU GUNUeKU3eLAeTAReTEeU2eUDeURUDAcLAK-636
cLAK-648dTIMES DUBeGAeIGIfGUNUeNIePAP PLUS PAP PLUS LU3eSHESH PLUS KIeUDeURUDAcLAK-724cLAK-749
cLU2 GUNU TIMES ASHdTIMES DISHeHALePAPfPLUS PAP PLUS LU3eTAK4cMI PLUS ZA7cMUSH OVER MUSH TIMES GA
gKAKcNINDA2 TIMES DIM GUNUeGISHeGULeHIeKESH2eLAK-050eMASHePAP PLUS PAPeUfPLUS UeURUDA
cSAG GUNU TIMES HAdTIMES ENeSHE AT LEFTeTAK4cSHA6 TENUcSHE OVER SHEdPLUS HUB2eNAM2eSAR
cSHU2 PLUS DUG TIMES NIeE2 TIMES ANcSI TIMES TAK4cTAK4 PLUS SAGcTUM TIMES GAN2 TENUeTHREE DISH
cUR2 INVERTEDdTIMES UDcURU TIMES DARA3eLAK-668eLU3cZA7cZU OVER ZU PLUS SAR
cZU5 TIMES THREE DISH TENUx2636aCYPRO-MINOAN SIGN CM001cCM002cCM004cCM005cCM006cCM007cCM008cCM009
cCM010cCM011cCM012cCM012BcCM013cCM015cCM017cCM019cCM021cCM023cCM024cCM025cCM026cCM027cCM028cCM029
cCM030cCM033cCM034cCM035cCM036cCM037cCM038cCM039cCM040cCM041cCM044cCM046cCM047cCM049cCM050cCM051
cCM052cCM053cCM054cCM055cCM056cCM058cCM059cCM060cCM061cCM062cCM063cCM064cCM066cCM067cCM068cCM069
cCM070cCM071cCM072cCM073cCM074cCM075cCM075BcCM076cCM078cCM079cCM080cCM081cCM082cCM083cCM084cCM085
cCM086cCM087cCM088cCM089cCM090cCM091cCM092cCM094cCM095cCM096cCM097cCM098cCM099cCM100cCM101cCM102
cCM103cCM104cCM105cCM107cCM108cCM109cCM110cCM112cCM114cCM301cCM302x13aEGYPTIAN HIEROGLYPH A001cA002
cA003cA004cA005cA005AcA006cA006AcA006BcA007cA008cA009cA010cA011cA012cA013cA014cA014AcA015cA016cA017
cA017AcA018cA019cA020cA021cA022cA023cA024cA025cA026cA027cA028cA029cA030cA031cA032cA032AcA033cA034
cA035cA036cA037cA038cA039cA040cA040AcA041cA042cA042AcA043cA043AcA044cA045cA045AcA046cA047cA048cA049
cA050cA051cA052cA053cA054cA055cA056cA057cA058cA059cA060cA061cA062cA063cA064cA065cA066cA067cA068
cA069cA070cB001cB002cB003cB004cB005cB005AcB006cB007cB008cB009cC001cC002cC002AcC002BcC002CcC003cC004
cC005cC006cC007cC008cC009cC010cC010AcC011cC012cC013cC014cC015cC016cC017cC018cC019cC020cC021cC022
cC023cC024cD001cD002cD003cD004cD005cD006cD007cD008cD008AcD009cD010cD011cD012cD013cD014cD015cD016
cD017cD018cD019cD020cD021cD022cD023cD024cD025cD026cD027cD027AcD028cD029cD030cD031cD031AcD032cD033
cD034cD034AcD035cD036cD037cD038cD039cD040cD041cD042cD043cD044cD045cD046cD046AcD047cD048cD048AcD049
cD050cD050AcD050BcD050CcD050DcD050EcD050FcD050GcD050HcD050IcD051cD052cD052AcD053cD054cD054AcD055
cD056cD057cD058cD059cD060cD061cD062cD063cD064cD065cD066cD067cD067AcD067BcD067CcD067DcD067EcD067F
cD067GcD067HcE001cE002cE003cE004cE005cE006cE007cE008cE008AcE009cE009AcE010cE011cE012cE013cE014cE015
cE016cE016AcE017cE017AcE018cE019cE020cE020AcE021cE022cE023cE024cE025cE026cE027cE028cE028AcE029cE030
cE031cE032cE033cE034cE034AcE036cE037cE038cF001cF001AcF002cF003cF004cF005cF006cF007cF008cF009cF010
cF011cF012cF013cF013AcF014cF015cF016cF017cF018cF019cF020cF021cF021AcF022cF023cF024cF025cF026cF027
cF028cF029cF030cF031cF031AcF032cF033cF034cF035cF036cF037cF037AcF038cF038AcF039cF040cF041cF042cF043
cF044cF045cF045AcF046cF046AcF047cF047AcF048cF049cF050cF051cF051AcF051BcF051CcF052cF053cG001cG002
cG003cG004cG005cG006cG006AcG007cG007AcG007BcG008cG009cG010cG011cG011AcG012cG013cG014cG015cG016cG017
cG018cG019cG020cG020AcG021cG022cG023cG024cG025cG026cG026AcG027cG028cG029cG030cG031cG032cG033cG034
cG035cG036cG036AcG037cG037AcG038cG039cG040cG041cG042cG043cG043AcG044cG045cG045AcG046cG047cG048cG049
cG050cG051cG052cG053cG054cH001cH002cH003cH004cH005cH006cH006AcH007cH008cI001cI002cI003cI004cI005
cI005AcI006cI007cI008cI009cI009AcI010cI010AcI011cI011AcI012cI013cI014cI015cK001cK002cK003cK004cK005
cK006cK007cK008cL001cL002cL002AcL003cL004cL005cL006cL006AcL007cL008cM001cM001AcM001BcM002cM003
cM003AcM004cM005cM006cM007cM008cM009cM010cM010AcM011cM012cM012AcM012BcM012CcM012DcM012EcM012FcM012G
cM012HcM013cM014cM015cM015AcM016cM016AcM017cM017AcM018cM019cM020cM021cM022cM022AcM023cM024cM024A
cM025cM026cM027cM028cM028AcM029cM030cM031cM031AcM032cM033cM033AcM033BcM034cM035cM036cM037cM038cM039
cM040cM040AcM041cM042cM043cM044cN001cN002cN003cN004cN005cN006cN007cN008cN009cN010cN011cN012cN013
cN014cN015cN016cN017cN018cN018AcN018BcN019cN020cN021cN022cN023cN024cN025cN025AcN026cN027cN028cN029
cN030cN031cN032cN033cN033AcN034cN034AcN035cN035AcN036cN037cN037AcN038cN039cN040cN041cN042cNL001
cNL002cNL003cNL004cNL005cNL005AcNL006cNL007cNL008cNL009cNL010cNL011cNL012cNL013cNL014cNL015cNL016
cNL017cNL017AcNL018cNL019cNL020cNU001cNU002cNU003cNU004cNU005cNU006cNU007cNU008cNU009cNU010cNU010A
cNU011cNU011AcNU012cNU013cNU014cNU015cNU016cNU017cNU018cNU018AcNU019cNU020cNU021cNU022cNU022AcO001
cO001AcO002cO003cO004cO005cO005AcO006cO006AcO006BcO006CcO006DcO006EcO006FcO007cO008cO009cO010cO010A
cO010BcO010CcO011cO012cO013cO014cO015cO016cO017cO018cO019cO019AcO020cO020AcO021cO022cO023cO024
cO024AcO025cO025AcO026cO027cO028cO029cO029AcO030cO030AcO031cO032cO033cO033AcO034cO035cO036cO036A
cO036BcO036CcO036DcO037cO038cO039cO040cO041cO042cO043cO044cO045cO046cO047cO048cO049cO050cO050A
cO050BcO051cP001cP001AcP002cP003cP003AcP004cP005cP006cP007cP008cP009cP010cP011cQ001cQ002cQ003cQ004
cQ005cQ006cQ007cR001cR002cR002AcR003cR003AcR003BcR004cR005cR006cR007cR008cR009cR010cR010AcR011cR012
cR013cR014cR015cR016cR016AcR017cR018cR019cR020cR021cR022cR023cR024cR025cR026cR027cR028cR029cS001
cS002cS002AcS003cS004cS005cS006cS006AcS007cS008cS009cS010cS011cS012cS013cS014cS014AcS014BcS015cS016
cS017cS017AcS018cS019cS020cS021cS022cS023cS024cS025cS026cS026AcS026BcS027cS028cS029cS030cS031cS032
cS033cS034cS035cS035AcS036cS037cS038cS039cS040cS041cS042cS043cS044cS045cS046cT001cT002cT003cT003A
cT004cT005cT006cT007cT007AcT008cT008AcT009cT009AcT010cT011cT011AcT012cT013cT014cT015cT016cT016A
cT017cT018cT019cT020cT021cT022cT023cT024cT025cT026cT027cT028cT029cT030cT031cT032cT032AcT033cT033A
cT034cT035cT036cU001cU002cU003cU004cU005cU006cU006AcU006BcU007cU008cU009cU010cU011cU012cU013cU014
cU015cU016cU017cU018cU019cU020cU021cU022cU023cU023AcU024cU025cU026cU027cU028cU029cU029AcU030cU031
cU032cU032AcU033cU034cU035cU036cU037cU038cU039cU040cU041cU042cV001cV001AcV001BcV001CcV001DcV001E
cV001FcV001GcV001HcV001IcV002cV002AcV003cV004cV005cV006cV007cV007AcV007BcV008cV009cV010cV011cV011A
cV011BcV011CcV012cV012AcV012BcV013cV014cV015cV016cV017cV018cV019cV020cV020AcV020BcV020CcV020DcV020E
cV020FcV020GcV020HcV020IcV020JcV020KcV020LcV021cV022cV023cV023AcV024cV025cV026cV027cV028cV028AcV029
cV029AcV030cV030AcV031cV031AcV032cV033cV033AcV034cV035cV036cV037cV037AcV038cV039cV040cV040AcW001
cW002cW003cW003AcW004cW005cW006cW007cW008cW009cW009AcW010cW010AcW011cW012cW013cW014cW014AcW015cW016
cW017cW017AcW018cW018AcW019cW020cW021cW022cW023cW024cW024AcW025cX001cX002cX003cX004cX004AcX004B
cX005cX006cX006AcX007cX008cX008AcY001cY001AcY002cY003cY004cY005cY006cY007cY008cZ001cZ002cZ002A
cZ002BcZ002CcZ002DcZ003cZ003AcZ003BcZ004cZ004AcZ005cZ005AcZ006cZ007cZ008cZ009cZ010cZ011cZ012cZ013
cZ014cZ015cZ015AcZ015BcZ015CcZ015DcZ015EcZ015FcZ015GcZ015HcZ015IcZ016cZ016AcZ016BcZ016CcZ016DcZ016E
cZ016FcZ016GcZ016HcAA001cAA002cAA003cAA004cAA005cAA006cAA007cAA007AcAA007BcAA008cAA009cAA010cAA011
cAA012cAA013cAA014cAA015cAA016cAA017cAA018cAA019cAA020cAA021cAA022cAA023cAA024cAA025cAA026cAA027
cAA028cAA029cAA030cAA031cAA032x1cVERTICAL JOINERcHORIZONTAL JOINERcINSERT AT TOP STARTeBOTTOM START
eTOP ENDeBOTTOM ENDcOVERLAY MIDDLEcBEGIN SEGMENTcEND SEGMENTx4039aANATOLIAN HIEROGLYPH A001cA002
cA003cA004cA005cA006cA007cA008cA009cA010cA010AcA011cA012cA013cA014cA015cA016cA017cA018cA019cA020
cA021cA022cA023cA024cA025cA026cA026AcA027cA028cA029cA030cA031cA032cA033cA034cA035cA036cA037cA038
cA039cA039AcA040cA041cA041AcA042cA043cA044cA045cA045AcA046cA046AcA046BcA047cA048cA049cA050cA051
cA052cA053cA054cA055cA056cA057cA058cA059cA060cA061cA062cA063cA064cA065cA066cA066AcA066BcA066CcA067
cA068cA069cA070cA071cA072cA073cA074cA075cA076cA077cA078cA079cA080cA081cA082cA083cA084cA085cA086
cA087cA088cA089cA090cA091cA092cA093cA094cA095cA096cA097cA097AcA098cA098AcA099cA100cA100AcA101cA101A
cA102cA102AcA103cA104cA104AcA104BcA104CcA105cA105AcA105BcA106cA107cA107AcA107BcA107CcA108cA109cA110
cA110AcA110BcA111cA112cA113cA114cA115cA115AcA116cA117cA118cA119cA120cA121cA122cA123cA124cA125cA125A
cA126cA127cA128cA129cA130cA131cA132cA133cA134cA135cA135AcA136cA137cA138cA139cA140cA141cA142cA143
cA144cA145cA146cA147cA148cA149cA150cA151cA152cA153cA154cA155cA156cA157cA158cA159cA160cA161cA162
cA163cA164cA165cA166cA167cA168cA169cA170cA171cA172cA173cA174cA175cA176cA177cA178cA179cA180cA181
cA182cA183cA184cA185cA186cA187cA188cA189cA190cA191cA192cA193cA194cA195cA196cA197cA198cA199cA200
cA201cA202cA202AcA202BcA203cA204cA205cA206cA207cA207AcA208cA209cA209AcA210cA211cA212cA213cA214cA215
cA215AcA216cA216AcA217cA218cA219cA220cA221cA222cA223cA224cA225cA226cA227cA227AcA228cA229cA230cA231
cA232cA233cA234cA235cA236cA237cA238cA239cA240cA241cA242cA243cA244cA245cA246cA247cA248cA249cA250
cA251cA252cA253cA254cA255cA256cA257cA258cA259cA260cA261cA262cA263cA264cA265cA266cA267cA267AcA268
cA269cA270cA271cA272cA273cA274cA275cA276cA277cA278cA279cA280cA281cA282cA283cA284cA285cA286cA287
cA288cA289cA289AcA290cA291cA292cA293cA294cA294AcA295cA296cA297cA298cA299cA299AcA300cA301cA302cA303
cA304cA305cA306cA307cA308cA309cA309AcA310cA311cA312cA313cA314cA315cA316cA317cA318cA319cA320cA321
cA322cA323cA324cA325cA326cA327cA328cA329cA329AcA330cA331cA332AcA332BcA332CcA333cA334cA335cA336
cA336AcA336BcA336CcA337cA338cA339cA340cA341cA342cA343cA344cA345cA346cA347cA348cA349cA350cA351cA352
cA353cA354cA355cA356cA357cA358cA359cA359AcA360cA361cA362cA363cA364cA364AcA365cA366cA367cA368cA368A
cA369cA370cA371cA371AcA372cA373cA374cA375cA376cA377cA378cA379cA380cA381cA381AcA382cA383 RA OR RI
cA383AcA384cA385cA386cA386AcA387cA388cA389cA390cA391cA392cA393 EIGHTcA394cA395cA396cA397cA398cA399
cA400cA401cA402cA403cA404cA405cA406cA407cA408cA409cA410 BEGIN LOGOGRAM MARKcA410A END LOGOGRAM MARK
cA411cA412cA413cA414cA415cA416cA417cA418cA419cA420cA421cA422cA423cA424cA425cA426cA427cA428cA429
cA430cA431cA432cA433cA434cA435cA436cA437cA438cA439cA440cA441cA442cA443cA444cA445cA446cA447cA448
cA449cA450cA450AcA451cA452cA453cA454cA455cA456cA457cA457AcA458cA459cA460cA461cA462cA463cA464cA465
cA466cA467cA468cA469cA470cA471cA472cA473cA474cA475cA476cA477cA478cA479cA480cA481cA482cA483cA484
cA485cA486cA487cA488cA489cA490cA491cA492cA493cA494cA495cA496cA497cA501cA502cA503cA504cA505cA506
cA507cA508cA509cA510cA511cA512cA513cA514cA515cA516cA517cA518cA519cA520cA521cA522cA523cA524cA525
cA526cA527cA528cA529cA530x8633aBAMUM LETTER PHASE-A NGKUE MFONdGBIEE FONdPON MFON PIPAEMGBIEE
fPIPAEMBAdNAA MFONdSHUENSHUETdTITA MFONdNZA MFONdSHINDA PA NJIdPON PA NJI PIPAEMGBIEEgPIPAEMBA
dMAEMBGBIEEdTU MAEMBAdNGANGUdMAEMVEUXdMANSUAEdMVEUAENGAMdSEUNYAMdNTOQPENdKEUKEUTNDAdNKINDIdSUU
dNGKUENZEUMdLAPAQdLET KUTdNTAP MFAAdMAEKEUPdPASHAEdGHEUAERAEdPAMSHAEdMON NGGEUAETdNZUN MEUT
dU YUQ NAEdGHEUAEGHEUAEdNTAP NTAAdSISAdMGBASAdMEUNJOMNDEUQdMOOMPUQdKAFAdPA LEERAEWAdNDA LEERAEWA
dPETdMAEMKPENdNIKAdPUPdTUAEPdLUAEPdSONJAMdTEUTEUWENdMAENYIdKETdNDAANGGEUAETdKUOQdMOOMEUTdSHUM
dLOMMAEdFIRIdROMdKPOQdSOQdMAP PIEETdSHIRAEdNTAPdSHOQ NSHUT YUMdNYIT MONGKEUAEQdPAARAEdNKAARAE
dUNKNOWNdNGGENdMAESIdNJAMdMBANYIdNYETdTEUAENdSOTdPAAMdNSHIEEdMAEMdNYIdKAQdNSHAdVEEdLUdNENdNAQdMBAQ
cPHASE-B NSHUETdTU MAEMGBIEEdSIEEdSET TUdLOM NTEUMdMBA MAELEEdKIEEMdYEURAEdMBAARAEdKAMdPEESHI
dYAFU LEERAEWAdLAM NSHUT NYAMdNTIEE SHEUOQdNDU NJAAdGHEUGHEUAEMdPITdTU NSIEEdSHET NJAQdSHEUAEQTU
dMFON TEUAEQdMBIT MBAAKETdNYI NTEUMdKEUPUQdGHEUGHENdKEUYEUXdLAANAEdPARUMdVEUMdNGKINDI MVOP
dNGGEU MBUdWUAETdSAKEUAEdTAAMdMEUQdNGGUOQeLARGEdMFIYAQdSUEdMBEURIdMONTIEENdNYAEMAEdPUNGAAM
dMEUT NGGEETdFEUXdMBUOQdFEEdKEUAEMdMA NJEUAENAeNJUQAdLETdNGGAAMdNSENdMAdKIQdNGOM
cPHASE-C NGKUE MAEMBAdNZAdYUMdWANGKUOQdNGGENdNDEUAEREEdNGKAQdGHARAEdMBEEKEETdGBAYI
dNYIR MKPARAQ MEUNdNTU MBITdMBEUMdPIRIEENdNDOMBUdMBAA CABBAGE-TREEdKEUSHEUAEPdGHAPdKEUKAQdYU MUOMAE
dNZEUMdMBUEdNSEUAENdMBITdYEUQdKPARAQdKAAdSEUXdNDIDAdTAASHAEdNJUEQdTITA YUEdSUAETdNGGUAEN NYAMdVEUX
dNANSANAQdMA KEUAERIdNTAAdNGGUONdLAPdMBIRIEENdMGBASAQdNTEUNGBAdTEUTEUXdNGGUMdFUEdNDEUTdNSAdNSHAQ
dBUNGdVEUAEPENdMBERAEdRUdNJAEMdLAMdTITUAEPdNSUOT NGOMdNJEEEEdKETdNGGUdMAESIdMBUAEMdLUdKUTdNJAMdNGOM
dWUPdNGGUEETdNSOMdNTENdKUOP NKAARAEdNSUNdNDAMdMA NSIEEdYAAdNDAPdSHUEQdSETFONdMBIdMAEMBAdMBANYI
dKEUSEUXdMBEUXdKEUMdMBAA PICKETdYUWOQdNJEUXdMIEEdMUAEdSHIQdKEN LAWeFATIGUEdNGAQdNAQdLIQdPINdPENdTET
cPHASE-D MBUOdWAPdNJIdMFONdNJIEEdLIEEdNJEUTdNSHEEdNGGAAMAEdNYAMdWUAENdNGKUNdSHEEdNGKAPdKEUAETMEUN
dTEUTdSHEUAEdNJAPdSUEdKETdYAEMMAEdKUOMdSAPdMFEUTdNDEUXdMALEERIdMEUTdSEUAEQdYENdNJEUAEMdKEUOT MBUAE
dNGKEURIdTUdGHAAdNGKYEEdFEUFEUAETdNDEEdMGBOFUMdLEUAEPdNDONdMONIdMGBEUNdPUUTdMGBIEEdMFOdLUMdNSIEEP
dMBAAdKWAETdNYETdTEUAENdSOTdYUWOQdKEUMdRAEMdTEEEEdNGKEUAEQdMFEUAEdNSIEETdKEUPdPIPdPEUTAEdNYUEdLET
dNGGAAMdMFIEEdNGGWAENdYUOMdPAPdYUOPdNDAMdNTEUMdSUAEdKUNdNGGEUXdNGKIEEdTUOTdMEUNdKUQdNSUMdTEUN
dMAENJETdNGGAPdLEUMdNGGUOMdNSHUTdNJUEQdGHEUAEdKUdREN OLDdTAEdTOQdNYIdRIIdLEEEEdMEEEEdMdSUUdMUdSHII
dSHEUXdKYEEdNUdSHUdNTEEdPEEdNIdSHOQdPUQdMVOPdLOQdREN MUCHdTIdNTUUdMBAA SEVENdSAQdFAAcPHASE-E NDAP
dTOONdMBEUMdLAPdVOMdLOONdPAAdSOMdRAQdNSHUOPdNDUNdPUAEdTAMdNGKAdKPEUXdWUOdSEEdNGGEUAETdPAAMdTOOdKUOP
dLOMdNSHIEEdNGOPdMAEMdNGKEUXdNGOQdNSHUEdRIMGBAdNJEUXdPEEMdSAAdNGGURAEdMGBAdGHEUXdNGKEUAEMdNJAEMLI
dMAPdLOOTdNGGEEEEdNDIQdTAEN NTEUMdSETdPUMdNDAA SOFTNESSdNGGUAESHAE NYAMdYIEEdGHEUNdTUAEdYEUAEdPO
dTUMAEdKEUAEdSUAENdTEUAEQdVEUAEdWEUXdLAAMdPUdTAAQdGHAAMAEdNGEUREUTdSHEUAEQdMGBENdMBEEdNZAQdNKOM
dGBETdTUMdKUETdYAPdNYI CLEAVERdYITdMFEUQdNDIAQdPIEEQdYUEQdLEUAEMdFUEdGBEUXdNGKUPdKETdMAEdNGKAAMI
dGHETdFAdNTUMdPEUTdYEUMdNGGEUAEdNYI BETWEENdNZUQdPOONdMIEEdFUETdNAEdMUAEdGHEUAEdFU IdMVIdPUAQdNGKUM
dKUTdPIETdNTAPdYEUAETdNGGUPdPA PEOPLEdFU CALLdFOMdNJEEdAdTOQdOdIdLAQdPA PLURALdTAAdTAQ
dNDAA MY HOUSEdSHIQdYEUXdNGUAEdYUAENdYOQ SWIMMINGeCOVERdYUQdYUNdKEUXdPEUXdNJEE EPOCHdPUEdWUEdFEE
dVEEdLUdMIdREUXdRAEdNGUAETdNGAdSHOdSHOQdFU REMEDYdNAdPIdLOQdKOdMENdMAdMAQdTEUdKIdMONdTENdFAQdGHOM
cPHASE-F KAdUdKUdEEdREEdTAEdNYIdLAdRIIdRIEEdMEEEEdTAAdNDAAdNJAEMdMdSUUdSHIIdSIdSEUXdKYEEdKETdNUAE
dNUdNJUAEdYOQdSHUdYAdNSHAdPEUXdNTEEdWUEdPEEdRUdNIdREUXdKENdNGKWAENdNGGAdSHOdPUAEdFOMdWAdLIdLOQdKO
dMBENdRENdMAdMOdMBAAdTETdKPAdSAMBAdVUEQx7aMRO LETTER TAcNGIcYOcMIMcBAcDAcAcPHIcKHAIcHAOcDAIcCHU
cKEAAEcOLcMAEMcNINcPAcOOcOcROcSHIcTHEAcEAcWAcEcKOcLANcLAcHAIcRIcTEKx1bDIGIT ZEROcONEcTWOcTHREEcFOUR
cFIVEcSIXcSEVENcEIGHTcNINEx4bDANDAbDOUBLE DANDAaTANGSA LETTER OZcOCcOQcOXcAZcACcAQcAXcVZcVCcVQcVX
cEZcECcEQcEXcIZcICcIQcIXcUZcUCcUQcUXcAWZcAWCcAWQcAWXcUIZcUICcUIQcUIXcFINAL NGcLONG UEXcSHORT UEZ
dAWXcUECcUEZcUEQcUEXcUIUZcUIUCcUIUQcUIUXcMZcMCcMQcMXcKAcKHAcGAcNGAcSAcYAcWAcPAcNYAcPHAcBAcMAcNAcHA
cLAcHTAcTAcDAcRAcNHAcSHAcCAcTSAcGHAcHTTAcTHAcXAcFAcDHAcCHAcZAx1bDIGIT ZEROcONEcTWOcTHREEcFOURcFIVE
cSIXcSEVENcEIGHTcNINEx6aBASSA VAH LETTER ENNIdKAdSEdFAdMBEdYIEdGAHdDHIIdKPAHdJOdHWAHdWAdZOdGBUdDO
dCEdUWUdTOdBAdVUdYEINdPAdWADDAdAdOdOOdUdEEdEdIx2cCOMBINING HIGH TONEdLOW TONEdMID TONEdLOW-MID TONE
dHIGH-LOW TONEcFULL STOPx10aPAHAWH HMONG VOWEL KEEBdKEEVdKIBdKIVdKAUBdKAUVdKUBdKUVdKEBdKEVdKAIB
dKAIVdKOOBdKOOVdKAWBdKAWVdKUABdKUAVdKOBdKOVdKIABdKIAVdKABdKAVdKWBdKWVdKAABdKAAVcCONSONANT VAUdNTSAU
dLAUdHAUdNLAUdRAUdNKAUdQHAUdYAUdHLAUdMAUdCHAUdNCHAUdHNAUdPLHAUdNTHAUdNAUdAUdXAUdCAUcMARK CIM TUBeSO
eKESeKHAVeSUAMeHOMeTAUMcSIGN VOS THOMeTSHAB CEEBdCIM CHEEMdVOS THIABeFEEMdXYEEM NTXIVeRHOeTOVeFAIB
dVOS SEEVdMEEJ SUABdVOS NRUAdIB YAMdXAUSdCIM TSOV ROGx10cDIGIT ZEROdONEdTWOdTHREEdFOURdFIVEdSIX
dSEVENdEIGHTdNINEx1cNUMBER TENSdHUNDREDSdTEN THOUSANDSdMILLIONSdHUNDRED MILLIONSdTEN BILLIONS
dTRILLIONSx1cSIGN VOS LUBdXYOOdHLIdTHIRD-STAGE HLIdZWJ THAJdHNUBdNQIGdXIABdNTUJdAVdTXHEEJ CEEV
dMEEJ TSEEBdTAUdLOSdMUSdCIM HAIS LUS NTOG NTOGeCUAM TSHOOJeTXWVfCHWVePUB DAWBeNRES TOSx5
cCLAN SIGN TSHEEJeYEEGeLISeLAUJeXYOOJeKOOeHAWJeMUASeTHOJeTSABePHABeKHABeHAMeVAJeFAJeYAJeTSWBeKWM
eVWJx688aMEDEFAIDRIN CAPITAL LETTER MdSdVdWdATIUdZdKPdPdTdGdFdIdKdAdJdEdBdCdUdYUdLdQdHPdNYdXdDdOEdN
dRdOdAIdYbSMALL LETTER MdSdVdWdATIUdZdKPdPdTdGdFdIdKdAdJdEdBdCdUdYUdLdQdHPdNYdXdDdOEdNdRdOdAIdY
bDIGIT ZEROcONEcTWOcTHREEcFOURcFIVEcSIXcSEVENcEIGHTcNINEbNUMBER TENcELEVENcTWELVEcTHIRTEENcFOURTEEN
cFIFTEENcSIXTEENcSEVENTEENcEIGHTEENcNINETEENbDIGIT ONE ALTERNATE FORMcTWO ALTERNATE FORM
cTHREE ALTERNATE FORMbCOMMAbFULL STOPbSYMBOL AIVAbEXCLAMATION OHx101aMIAO LETTER PAcBAcYI PAcPLAcMA
cMHAcARCHAIC MAcFAcVAcVFAcTAcDAcYI TTAdTAcTTAcDDAcNAcNHAcYI NNAcARCHAIC NAcNNAcNNHAcLAcLYAcLHAcLHYA
cTLHAcDLHAcTLHYAcDLHYAcKAcGAcYI KAcQAcQGAcNGAcNGHAcARCHAIC NGAcHAcXAcGHAcGHHAcTSSAcDZZAcNYAcNYHA
cTSHAcDZHAcYI TSHAdDZHAcREFORMED TSHAcSHAcSSAcZHAcZSHAcTSAcDZAcYI TSAcSAcZAcZSAcZZAcZZSA
cARCHAIC ZZAcZZYAcZZSYAcWAcAHcHHAcBRIcSYIcDZYIcTEcTSEcRTEx4bSIGN CONSONANT MODIFIER BAR
bLETTER NASALIZATIONbSIGN ASPIRATIONcREFORMED VOICINGdASPIRATIONbVOWEL SIGN AdAAdAHHdANdANGdOdOOdWO
dWdEdENdENGdOEYdIdIAdIANdIANGdIOdIEdIIdIUdINGdUdUAdUANdUANGdUUdUEIdUNGdYdYIdAEdAEEdERRdROUNDED ERR
dERdROUNDED ERdAIdEIdAUdOUdNdNGdUOGdYUIdOGdOERdVWdIGdEAdIONGdUIx7bTONE RIGHTcTOP RIGHTcABOVEcBELOW
bLETTER TONE-2cTONE-3cTONE-4cTONE-5cTONE-6cTONE-7cTONE-8cREFORMED TONE-1dTONE-2dTONE-4dTONE-5
dTONE-6dTONE-8x64aTANGUT ITERATION MARKaNUSHU ITERATION MARKaOLD CHINESE HOOK MARKcITERATION MARK
aKHITAN SMALL SCRIPT FILLERx11aVIETNAMESE ALTERNATE READING MARK CAeNHAYx6158aTANGUT COMPONENT-001
bCOMPONENT-002bCOMPONENT-003bCOMPONENT-004bCOMPONENT-005bCOMPONENT-006bCOMPONENT-007bCOMPONENT-008
bCOMPONENT-009bCOMPONENT-010bCOMPONENT-011bCOMPONENT-012bCOMPONENT-013bCOMPONENT-014bCOMPONENT-015
bCOMPONENT-016bCOMPONENT-017bCOMPONENT-018bCOMPONENT-019bCOMPONENT-020bCOMPONENT-021bCOMPONENT-022
bCOMPONENT-023bCOMPONENT-024bCOMPONENT-025bCOMPONENT-026bCOMPONENT-027bCOMPONENT-028bCOMPONENT-029
bCOMPONENT-030bCOMPONENT-031bCOMPONENT-032bCOMPONENT-033bCOMPONENT-034bCOMPONENT-035bCOMPONENT-036
bCOMPONENT-037bCOMPONENT-038bCOMPONENT-039bCOMPONENT-040bCOMPONENT-041bCOMPONENT-042bCOMPONENT-043
bCOMPONENT-044bCOMPONENT-045bCOMPONENT-046bCOMPONENT-047bCOMPONENT-048bCOMPONENT-049bCOMPONENT-050
bCOMPONENT-051bCOMPONENT-052bCOMPONENT-053bCOMPONENT-054bCOMPONENT-055bCOMPONENT-056bCOMPONENT-057
bCOMPONENT-058bCOMPONENT-059bCOMPONENT-060bCOMPONENT-061bCOMPONENT-062bCOMPONENT-063bCOMPONENT-064
bCOMPONENT-065bCOMPONENT-066bCOMPONENT-067bCOMPONENT-068bCOMPONENT-069bCOMPONENT-070bCOMPONENT-071
bCOMPONENT-072bCOMPONENT-073bCOMPONENT-074bCOMPONENT-075bCOMPONENT-076bCOMPONENT-077bCOMPONENT-078
bCOMPONENT-079bCOMPONENT-080bCOMPONENT-081bCOMPONENT-082bCOMPONENT-083bCOMPONENT-084bCOMPONENT-085
bCOMPONENT-086bCOMPONENT-087bCOMPONENT-088bCOMPONENT-089bCOMPONENT-090bCOMPONENT-091bCOMPONENT-092
bCOMPONENT-093bCOMPONENT-094bCOMPONENT-095bCOMPONENT-096bCOMPONENT-097bCOMPONENT-098bCOMPONENT-099
bCOMPONENT-100bCOMPONENT-101bCOMPONENT-102bCOMPONENT-103bCOMPONENT-104bCOMPONENT-105bCOMPONENT-106
bCOMPONENT-107bCOMPONENT-108bCOMPONENT-109bCOMPONENT-110bCOMPONENT-111bCOMPONENT-112bCOMPONENT-113
bCOMPONENT-114bCOMPONENT-115bCOMPONENT-116bCOMPONENT-117bCOMPONENT-118bCOMPONENT-119bCOMPONENT-120
bCOMPONENT-121bCOMPONENT-122bCOMPONENT-123bCOMPONENT-124bCOMPONENT-125bCOMPONENT-126bCOMPONENT-127
bCOMPONENT-128bCOMPONENT-129bCOMPONENT-130bCOMPONENT-131bCOMPONENT-132bCOMPONENT-133bCOMPONENT-134
bCOMPONENT-135bCOMPONENT-136bCOMPONENT-137bCOMPONENT-138bCOMPONENT-139bCOMPONENT-140bCOMPONENT-141
bCOMPONENT-142bCOMPONENT-143bCOMPONENT-144bCOMPONENT-145bCOMPONENT-146bCOMPONENT-147bCOMPONENT-148
bCOMPONENT-149bCOMPONENT-150bCOMPONENT-151bCOMPONENT-152bCOMPONENT-153bCOMPONENT-154bCOMPONENT-155
bCOMPONENT-156bCOMPONENT-157bCOMPONENT-158bCOMPONENT-159bCOMPONENT-160bCOMPONENT-161bCOMPONENT-162
bCOMPONENT-163bCOMPONENT-164bCOMPONENT-165bCOMPONENT-166bCOMPONENT-167bCOMPONENT-168bCOMPONENT-169
bCOMPONENT-170bCOMPONENT-171bCOMPONENT-172bCOMPONENT-173bCOMPONENT-174bCOMPONENT-175bCOMPONENT-176
bCOMPONENT-177bCOMPONENT-178bCOMPONENT-179bCOMPONENT-180bCOMPONENT-181bCOMPONENT-182bCOMPONENT-183
bCOMPONENT-184bCOMPONENT-185bCOMPONENT-186bCOMPONENT-187bCOMPONENT-188bCOMPONENT-189bCOMPONENT-190
bCOMPONENT-191bCOMPONENT-192bCOMPONENT-193bCOMPONENT-194bCOMPONENT-195bCOMPONENT-196bCOMPONENT-197
bCOMPONENT-198bCOMPONENT-199bCOMPONENT-200bCOMPONENT-201bCOMPONENT-202bCOMPONENT-203bCOMPONENT-204
bCOMPONENT-205bCOMPONENT-206bCOMPONENT-207bCOMPONENT-208bCOMPONENT-209bCOMPONENT-210bCOMPONENT-211
bCOMPONENT-212bCOMPONENT-213bCOMPONENT-214bCOMPONENT-215bCOMPONENT-216bCOMPONENT-217bCOMPONENT-218
bCOMPONENT-219bCOMPONENT-220bCOMPONENT-221bCOMPONENT-222bCOMPONENT-223bCOMPONENT-224bCOMPONENT-225
bCOMPONENT-226bCOMPONENT-227bCOMPONENT-228bCOMPONENT-229bCOMPONENT-230bCOMPONENT-231bCOMPONENT-232
bCOMPONENT-233bCOMPONENT-234bCOMPONENT-235bCOMPONENT-236bCOMPONENT-237bCOMPONENT-238bCOMPONENT-239
bCOMPONENT-240bCOMPONENT-241bCOMPONENT-242bCOMPONENT-243bCOMPONENT-244bCOMPONENT-245bCOMPONENT-246
bCOMPONENT-247bCOMPONENT-248bCOMPONENT-249bCOMPONENT-250bCOMPONENT-251bCOMPONENT-252bCOMPONENT-253
bCOMPONENT-254bCOMPONENT-255bCOMPONENT-256bCOMPONENT-257bCOMPONENT-258bCOMPONENT-259bCOMPONENT-260
bCOMPONENT-261bCOMPONENT-262bCOMPONENT-263bCOMPONENT-264bCOMPONENT-265bCOMPONENT-266bCOMPONENT-267
bCOMPONENT-268bCOMPONENT-269bCOMPONENT-270bCOMPONENT-271bCOMPONENT-272bCOMPONENT-273bCOMPONENT-274
bCOMPONENT-275bCOMPONENT-276bCOMPONENT-277bCOMPONENT-278bCOMPONENT-279bCOMPONENT-280bCOMPONENT-281
bCOMPONENT-282bCOMPONENT-283bCOMPONENT-284bCOMPONENT-285bCOMPONENT-286bCOMPONENT-287bCOMPONENT-288
bCOMPONENT-289bCOMPONENT-290bCOMPONENT-291bCOMPONENT-292bCOMPONENT-293bCOMPONENT-294bCOMPONENT-295
bCOMPONENT-296bCOMPONENT-297bCOMPONENT-298bCOMPONENT-299bCOMPONENT-300bCOMPONENT-301bCOMPONENT-302
bCOMPONENT-303bCOMPONENT-304bCOMPONENT-305bCOMPONENT-306bCOMPONENT-307bCOMPONENT-308bCOMPONENT-309
bCOMPONENT-310bCOMPONENT-311bCOMPONENT-312bCOMPONENT-313bCOMPONENT-314bCOMPONENT-315bCOMPONENT-316
bCOMPONENT-317bCOMPONENT-318bCOMPONENT-319bCOMPONENT-320bCOMPONENT-321bCOMPONENT-322bCOMPONENT-323
bCOMPONENT-324bCOMPONENT-325bCOMPONENT-326bCOMPONENT-327bCOMPONENT-328bCOMPONENT-329bCOMPONENT-330
bCOMPONENT-331bCOMPONENT-332bCOMPONENT-333bCOMPONENT-334bCOMPONENT-335bCOMPONENT-336bCOMPONENT-337
bCOMPONENT-338bCOMPONENT-339bCOMPONENT-340bCOMPONENT-341bCOMPONENT-342bCOMPONENT-343bCOMPONENT-344
bCOMPONENT-345bCOMPONENT-346bCOMPONENT-347bCOMPONENT-348bCOMPONENT-349bCOMPONENT-350bCOMPONENT-351
bCOMPONENT-352bCOMPONENT-353bCOMPONENT-354bCOMPONENT-355bCOMPONENT-356bCOMPONENT-357bCOMPONENT-358
bCOMPONENT-359bCOMPONENT-360bCOMPONENT-361bCOMPONENT-362bCOMPONENT-363bCOMPONENT-364bCOMPONENT-365
bCOMPONENT-366bCOMPONENT-367bCOMPONENT-368bCOMPONENT-369bCOMPONENT-370bCOMPONENT-371bCOMPONENT-372
bCOMPONENT-373bCOMPONENT-374bCOMPONENT-375bCOMPONENT-376bCOMPONENT-377bCOMPONENT-378bCOMPONENT-379
bCOMPONENT-380bCOMPONENT-381bCOMPONENT-382bCOMPONENT-383bCOMPONENT-384bCOMPONENT-385bCOMPONENT-386
bCOMPONENT-387bCOMPONENT-388bCOMPONENT-389bCOMPONENT-390bCOMPONENT-391bCOMPONENT-392bCOMPONENT-393
bCOMPONENT-394bCOMPONENT-395bCOMPONENT-396bCOMPONENT-397bCOMPONENT-398bCOMPONENT-399bCOMPONENT-400
bCOMPONENT-401bCOMPONENT-402bCOMPONENT-403bCOMPONENT-404bCOMPONENT-405bCOMPONENT-406bCOMPONENT-407
bCOMPONENT-408bCOMPONENT-409bCOMPONENT-410bCOMPONENT-411bCOMPONENT-412bCOMPONENT-413bCOMPONENT-414
bCOMPONENT-415bCOMPONENT-416bCOMPONENT-417bCOMPONENT-418bCOMPONENT-419bCOMPONENT-420bCOMPONENT-421
bCOMPONENT-422bCOMPONENT-423bCOMPONENT-424bCOMPONENT-425bCOMPONENT-426bCOMPONENT-427bCOMPONENT-428
bCOMPONENT-429bCOMPONENT-430bCOMPONENT-431bCOMPONENT-432bCOMPONENT-433bCOMPONENT-434bCOMPONENT-435
bCOMPONENT-436bCOMPONENT-437bCOMPONENT-438bCOMPONENT-439bCOMPONENT-440bCOMPONENT-441bCOMPONENT-442
bCOMPONENT-443bCOMPONENT-444bCOMPONENT-445bCOMPONENT-446bCOMPONENT-447bCOMPONENT-448bCOMPONENT-449
bCOMPONENT-450bCOMPONENT-451bCOMPONENT-452bCOMPONENT-453bCOMPONENT-454bCOMPONENT-455bCOMPONENT-456
bCOMPONENT-457bCOMPONENT-458bCOMPONENT-459bCOMPONENT-460bCOMPONENT-461bCOMPONENT-462bCOMPONENT-463
bCOMPONENT-464bCOMPONENT-465bCOMPONENT-466bCOMPONENT-467bCOMPONENT-468bCOMPONENT-469bCOMPONENT-470
bCOMPONENT-471bCOMPONENT-472bCOMPONENT-473bCOMPONENT-474bCOMPONENT-475bCOMPONENT-476bCOMPONENT-477
bCOMPONENT-478bCOMPONENT-479bCOMPONENT-480bCOMPONENT-481bCOMPONENT-482bCOMPONENT-483bCOMPONENT-484
bCOMPONENT-485bCOMPONENT-486bCOMPONENT-487bCOMPONENT-488bCOMPONENT-489bCOMPONENT-490bCOMPONENT-491
bCOMPONENT-492bCOMPONENT-493bCOMPONENT-494bCOMPONENT-495bCOMPONENT-496bCOMPONENT-497bCOMPONENT-498
bCOMPONENT-499bCOMPONENT-500bCOMPONENT-501bCOMPONENT-502bCOMPONENT-503bCOMPONENT-504bCOMPONENT-505
bCOMPONENT-506bCOMPONENT-507bCOMPONENT-508bCOMPONENT-509bCOMPONENT-510bCOMPONENT-511bCOMPONENT-512
bCOMPONENT-513bCOMPONENT-514bCOMPONENT-515bCOMPONENT-516bCOMPONENT-517bCOMPONENT-518bCOMPONENT-519
bCOMPONENT-520bCOMPONENT-521bCOMPONENT-522bCOMPONENT-523bCOMPONENT-524bCOMPONENT-525bCOMPONENT-526
bCOMPONENT-527bCOMPONENT-528bCOMPONENT-529bCOMPONENT-530bCOMPONENT-531bCOMPONENT-532bCOMPONENT-533
bCOMPONENT-534bCOMPONENT-535bCOMPONENT-536bCOMPONENT-537bCOMPONENT-538bCOMPONENT-539bCOMPONENT-540
bCOMPONENT-541bCOMPONENT-542bCOMPONENT-543bCOMPONENT-544bCOMPONENT-545bCOMPONENT-546bCOMPONENT-547
bCOMPONENT-548bCOMPONENT-549bCOMPONENT-550bCOMPONENT-551bCOMPONENT-552bCOMPONENT-553bCOMPONENT-554
bCOMPONENT-555bCOMPONENT-556bCOMPONENT-557bCOMPONENT-558bCOMPONENT-559bCOMPONENT-560bCOMPONENT-561
bCOMPONENT-562bCOMPONENT-563bCOMPONENT-564bCOMPONENT-565bCOMPONENT-566bCOMPONENT-567bCOMPONENT-568
bCOMPONENT-569bCOMPONENT-570bCOMPONENT-571bCOMPONENT-572bCOMPONENT-573bCOMPONENT-574bCOMPONENT-575
bCOMPONENT-576bCOMPONENT-577bCOMPONENT-578bCOMPONENT-579bCOMPONENT-580bCOMPONENT-581bCOMPONENT-582
bCOMPONENT-583bCOMPONENT-584bCOMPONENT-585bCOMPONENT-586bCOMPONENT-587bCOMPONENT-588bCOMPONENT-589
bCOMPONENT-590bCOMPONENT-591bCOMPONENT-592bCOMPONENT-593bCOMPONENT-594bCOMPONENT-595bCOMPONENT-596
bCOMPONENT-597bCOMPONENT-598bCOMPONENT-599bCOMPONENT-600bCOMPONENT-601bCOMPONENT-602bCOMPONENT-603
bCOMPONENT-604bCOMPONENT-605bCOMPONENT-606bCOMPONENT-607bCOMPONENT-608bCOMPONENT-609bCOMPONENT-610
bCOMPONENT-611bCOMPONENT-612bCOMPONENT-613bCOMPONENT-614bCOMPONENT-615bCOMPONENT-616bCOMPONENT-617
bCOMPONENT-618bCOMPONENT-619bCOMPONENT-620bCOMPONENT-621bCOMPONENT-622bCOMPONENT-623bCOMPONENT-624
bCOMPONENT-625bCOMPONENT-626bCOMPONENT-627bCOMPONENT-628bCOMPONENT-629bCOMPONENT-630bCOMPONENT-631
bCOMPONENT-632bCOMPONENT-633bCOMPONENT-634bCOMPONENT-635bCOMPONENT-636bCOMPONENT-637bCOMPONENT-638
bCOMPONENT-639bCOMPONENT-640bCOMPONENT-641bCOMPONENT-642bCOMPONENT-643bCOMPONENT-644bCOMPONENT-645
bCOMPONENT-646bCOMPONENT-647bCOMPONENT-648bCOMPONENT-649bCOMPONENT-650bCOMPONENT-651bCOMPONENT-652
bCOMPONENT-653bCOMPONENT-654bCOMPONENT-655bCOMPONENT-656bCOMPONENT-657bCOMPONENT-658bCOMPONENT-659
bCOMPONENT-660bCOMPONENT-661bCOMPONENT-662bCOMPONENT-663bCOMPONENT-664bCOMPONENT-665bCOMPONENT-666
bCOMPONENT-667bCOMPONENT-668bCOMPONENT-669bCOMPONENT-670bCOMPONENT-671bCOMPONENT-672bCOMPONENT-673
bCOMPONENT-674bCOMPONENT-675bCOMPONENT-676bCOMPONENT-677bCOMPONENT-678bCOMPONENT-679bCOMPONENT-680
bCOMPONENT-681bCOMPONENT-682bCOMPONENT-683bCOMPONENT-684bCOMPONENT-685bCOMPONENT-686bCOMPONENT-687
bCOMPONENT-688bCOMPONENT-689bCOMPONENT-690bCOMPONENT-691bCOMPONENT-692bCOMPONENT-693bCOMPONENT-694
bCOMPONENT-695bCOMPONENT-696bCOMPONENT-697bCOMPONENT-698bCOMPONENT-699bCOMPONENT-700bCOMPONENT-701
bCOMPONENT-702bCOMPONENT-703bCOMPONENT-704bCOMPONENT-705bCOMPONENT-706bCOMPONENT-707bCOMPONENT-708
bCOMPONENT-709bCOMPONENT-710bCOMPONENT-711bCOMPONENT-712bCOMPONENT-713bCOMPONENT-714bCOMPONENT-715
bCOMPONENT-716bCOMPONENT-717bCOMPONENT-718bCOMPONENT-719bCOMPONENT-720bCOMPONENT-721bCOMPONENT-722
bCOMPONENT-723bCOMPONENT-724bCOMPONENT-725bCOMPONENT-726bCOMPONENT-727bCOMPONENT-728bCOMPONENT-729
bCOMPONENT-730bCOMPONENT-731bCOMPONENT-732bCOMPONENT-733bCOMPONENT-734bCOMPONENT-735bCOMPONENT-736
bCOMPONENT-737bCOMPONENT-738bCOMPONENT-739bCOMPONENT-740bCOMPONENT-741bCOMPONENT-742bCOMPONENT-743
bCOMPONENT-744bCOMPONENT-745bCOMPONENT-746bCOMPONENT-747bCOMPONENT-748bCOMPONENT-749bCOMPONENT-750
bCOMPONENT-751bCOMPONENT-752bCOMPONENT-753bCOMPONENT-754bCOMPONENT-755bCOMPONENT-756bCOMPONENT-757
bCOMPONENT-758bCOMPONENT-759bCOMPONENT-760bCOMPONENT-761bCOMPONENT-762bCOMPONENT-763bCOMPONENT-764
bCOMPONENT-765bCOMPONENT-766bCOMPONENT-767bCOMPONENT-768x9456aKATAKANA LETTER MINNAN TONE-2dTONE-3
dTONE-4dTONE-5x1dTONE-7dTONE-8dNASALIZED TONE-1eTONE-2eTONE-3eTONE-4eTONE-5x1eTONE-7eTONE-8x1
cARCHAIC EaHIRAGANA LETTER ARCHAIC YEaHENTAIGANA LETTER A-1cA-2cA-3cA-WOcI-1cI-2cI-3cI-4cU-1cU-2
cU-3cU-4cU-5cE-2cE-3cE-4cE-5cE-6cO-1cO-2cO-3cKA-1cKA-2cKA-3cKA-4cKA-5cKA-6cKA-7cKA-8cKA-9cKA-10
cKA-11cKA-KEcKI-1cKI-2cKI-3cKI-4cKI-5cKI-6cKI-7cKI-8cKU-1cKU-2cKU-3cKU-4cKU-5cKU-6cKU-7cKE-1cKE-2
cKE-3cKE-4cKE-5cKE-6cKO-1cKO-2cKO-3cKO-KIcSA-1cSA-2cSA-3cSA-4cSA-5cSA-6cSA-7cSA-8cSI-1cSI-2cSI-3
cSI-4cSI-5cSI-6cSU-1cSU-2cSU-3cSU-4cSU-5cSU-6cSU-7cSU-8cSE-1cSE-2cSE-3cSE-4cSE-5cSO-1cSO-2cSO-3
cSO-4cSO-5cSO-6cSO-7cTA-1cTA-2cTA-3cTA-4cTI-1cTI-2cTI-3cTI-4cTI-5cTI-6cTI-7cTU-1cTU-2cTU-3cTU-4
cTU-TOcTE-1cTE-2cTE-3cTE-4cTE-5cTE-6cTE-7cTE-8cTE-9cTO-1cTO-2cTO-3cTO-4cTO-5cTO-6cTO-RAcNA-1cNA-2
cNA-3cNA-4cNA-5cNA-6cNA-7cNA-8cNA-9cNI-1cNI-2cNI-3cNI-4cNI-5cNI-6cNI-7cNI-TEcNU-1cNU-2cNU-3cNE-1
cNE-2cNE-3cNE-4cNE-5cNE-6cNE-KOcNO-1cNO-2cNO-3cNO-4cNO-5cHA-1cHA-2cHA-3cHA-4cHA-5cHA-6cHA-7cHA-8
cHA-9cHA-10cHA-11cHI-1cHI-2cHI-3cHI-4cHI-5cHI-6cHI-7cHU-1cHU-2cHU-3cHE-1cHE-2cHE-3cHE-4cHE-5cHE-6
cHE-7cHO-1cHO-2cHO-3cHO-4cHO-5cHO-6cHO-7cHO-8cMA-1cMA-2cMA-3cMA-4cMA-5cMA-6cMA-7cMI-1cMI-2cMI-3
cMI-4cMI-5cMI-6cMI-7cMU-1cMU-2cMU-3cMU-4cME-1cME-2cME-MAcMO-1cMO-2cMO-3cMO-4cMO-5cMO-6cYA-1cYA-2
cYA-3cYA-4cYA-5cYA-YOcYU-1cYU-2cYU-3cYU-4cYO-1cYO-2cYO-3cYO-4cYO-5cYO-6cRA-1cRA-2cRA-3cRA-4cRI-1
cRI-2cRI-3cRI-4cRI-5cRI-6cRI-7cRU-1cRU-2cRU-3cRU-4cRU-5cRU-6cRE-1cRE-2cRE-3cRE-4cRO-1cRO-2cRO-3
cRO-4cRO-5cRO-6cWA-1cWA-2cWA-3cWA-4cWA-5cWI-1cWI-2cWI-3cWI-4cWI-5cWE-1cWE-2cWE-3cWE-4cWO-1cWO-2
cWO-3cWO-4cWO-5cWO-6cWO-7cN-MU-MO-1cN-MU-MO-2aHIRAGANA LETTER ARCHAIC WUaKATAKANA LETTER ARCHAIC YI
dYEdWUx45aHIRAGANA LETTER SMALL WIdWEdWOx17aKATAKANA LETTER SMALL WIdWEdWOdNx2712aDUPLOYAN LETTER H
cXcPcTcFcKcLcBcDcVcGcRcP NcD ScF NcK McR ScTHcSLOAN DHcDHcKKcSLOAN JcHLcLHcRHcMcNcJcScM NcN McJ M
cS JcM WITH DOTcN WITH DOTcJ WITH DOTeDOTS INSIDE AND ABOVEcS WITH DOTfBELOWcM ScN ScJ ScS ScM N S
cN M ScJ M ScS J ScJ S WITH DOTdNeScS TeRdPeRcT SdR ScWcWHcW RcS NdMcK R ScG R ScS KeRcAcSLOAN OW
cOAcOcAOUcIcEcIEcSHORT IcUIcEEcSLOAN EHcROMANIAN IcSLOAN EEcLONG IcYEcUcEUcXWcU NcLONG UcROMANIAN U
cUHcSLOAN UcOOHcOWcOUcWAcWOcWIcWEIcWOWcNASAL UdOdIdAcPERNIN ANdAMcSLOAN ENdANdONcVOCALIC Mx5
bAFFIX LEFT HORIZONTAL SECANTcMID HORIZONTAL SECANTcRIGHT HORIZONTAL SECANTcLOW VERTICAL SECANT
cMID VERTICAL SECANTcHIGH VERTICAL SECANTcATTACHED SECANTdLEFT-TO-RIGHT SECANTdTANGENTdTAILdE HOOK
dI HOOKdTANGENT HOOKx3cHIGH ACUTEdTIGHT ACUTEdGRAVEdLONG GRAVEdDOTdCIRCLEdLINEdWAVEdVERTICALx7
cLOW ACUTEdTIGHT ACUTEdGRAVEdLONG GRAVEdDOTdCIRCLEdLINEdWAVEdVERTICALdARROWx2bSIGN O WITH CROSS
bTHICK LETTER SELECTORbDOUBLE MARKbPUNCTUATION CHINOOK FULL STOPaSHORTHAND FORMAT LETTER OVERLAP
cCONTINUING OVERLAPcDOWN STEPcUP STEPx4700aZNAMENNY COMBINING MARK GORAZDO NIZKO S KRYZHEM ON LEFT
dNIZKO S KRYZHEM ON LEFTdTSATA ON LEFTdGORAZDO NIZKO ON LEFTdNIZKO ON LEFTdSREDNE ON LEFT
dMALO POVYSHE ON LEFTdPOVYSHE ON LEFTdVYSOKO ON LEFTdMALO POVYSHE S KHOKHLOM ON LEFT
dPOVYSHE S KHOKHLOM ON LEFTdVYSOKO S KHOKHLOM ON LEFTdGORAZDO NIZKO S KRYZHEM ON RIGHT
dNIZKO S KRYZHEM ON RIGHTdTSATA ON RIGHTdGORAZDO NIZKO ON RIGHTdNIZKO ON RIGHTdSREDNE ON RIGHT
dMALO POVYSHE ON RIGHTdPOVYSHE ON RIGHTdVYSOKO ON RIGHTdMALO POVYSHE S KHOKHLOM ON RIGHT
dPOVYSHE S KHOKHLOM ON RIGHTdVYSOKO S KHOKHLOM ON RIGHTdTSATA S KRYZHEMdMALO POVYSHE S KRYZHEM
dSTRANNO MALO POVYSHEdPOVYSHE S KRYZHEMeSTRANNOdVYSOKO S KRYZHEMdMALO POVYSHE STRANNO
dGORAZDO VYSOKOdZELOdONdRAVNOdTIKHAYAdBORZAYAdUDARKAdPODVERTKAdLOMKAdKUPNAYAdKACHKAdZEVOKdSKOBA
dRAZSEKAdKRYZH ON LEFTx2cTONAL RANGE MARK MRACHNOfSVETLOfTRESVETLOcMARK ZADERZHKA
dDEMESTVENNY ZADERZHKAdOTSECHKAdPODCHASHIEeWITH VERTICAL STROKEdCHASHKAePOLNAYAdOBLACHKO
dSOROCHYA NOZHKAdTOCHKAdDVOETOCHIEcATTACHING VERTICAL OMETcMARK CURVED OMETdKRYZH
cLOWER TONAL RANGE INDICATORbPRIZNAK MODIFIER LEVEL-2dLEVEL-3dDIRECTION FLIPdKRYZHdROGx9
bNEUME KRYUKdTIKHYcPARAKLITcDVA V CHELNUcKLYUCHcZANOZHEKcSTOPITSAdS OCHKOMcPEREVODKAdNEPOSTOYANNAYA
cSTOPITSA WITH SOROCHYA NOZHKAcCHELYUSTKAcPALKAcZAPYATAYAcGOLUBCHIK BORZYdTIKHYdMRACHNYdSVETLY
dTRESVETLYcVRAKHIYA PROSTAYAdMRACHNAYAdSVETLAYAdTRESVETLAYAdKLYUCHEVAYA PROSTAYAeMRACHNAYAeSVETLAYA
eTRESVETLAYAcDOUBLE ZAPYATAYAcREVERSED CHELYUSTKAcDERBITSAcKHAMILOcCHASHKAcPODCHASHIE
cSKAMEYTSA MRACHNAYAdSVETLAYAdTRESVETLAYAdTIKHAYAcDEMESTVENNY KLYUCHcSKAMEYTSA KLYUCHEVAYA SVETLAYA
dKLYUCHENEPOSTOYANNAYAdKLYUCHEVAYA TIKHAYAdDVOECHELNAYA PROSTAYAeSVETLAYAeNEPOSTOYANNAYA
eKLYUCHEVAYAcSLOZHITIEdS ZAPYATOYdZAKRYTOEdS KRYZHEMcKRYZHcROGcFITAcKOBYLAcZMEYTSAcSTATYA
dS ZAPYATOYeKRYZHEMeZAPYATOY I KRYZHEMeKRYZHEM I ZAPYATOYdZAKRYTAYAeS ZAPYATOYdS ROGOM
eDVUMYA ZAPYATYMIeZAPYATOY I PODCHASHIEMcPOLKULIZMYcSTATYA NEPOSTOYANNAYAcSTRELA PROSTAYA
dMRACHNOTIKHAYAdKRYZHEVAYAdPOLUPOVODNAYAdPOVODNAYAdNEPOSTOYANNAYAdKLYUCHEPOVODNAYA
dKLYUCHENEPOSTOYANNAYAdTIKHAYA PUTNAYAdDVOECHELNAYAdDVOECHELNOKRYZHEVAYAdDVOECHELNOPOVODNAYA
dDVOECHELNAYA KLYUCHEVAYAdDVOECHELNOPOVODNAYA KLYUCHEVAYAdGROMNAYA WITH SINGLE ZAPYATAYA
dGROMOPOVODNAYA WITH SINGLE ZAPYATAYAdGROMNAYAdGROMOPOVODNAYAeWITH DOUBLE ZAPYATAYAdGROMOKRYZHEVAYA
ePOVODNAYAcMECHIKdPOVODNYdKLYUCHEVOYdKLYUCHEPOVODNYdKLYUCHENEPOSTOYANNYcSTRELA TRYASOGLASNAYA
dTRYASOPOVODNAYAdTRYASOSTRELNAYAcOSOKAdSVETLAYAdTRESVETLAYAdKRYUKOVAYA SVETLAYA
dKLYUCHEVAYA SVETLAYAeNEPOSTOYANNAYAcSTRELA KRYUKOVAYAePOVODNAYAeGROMNAYA WITH SINGLE ZAPYATAYA
eGROMOPOVODNAYA WITH SINGLE ZAPYATAYAeGROMNAYAeGROMOPOVODNAYAfWITH DOUBLE ZAPYATAYAeGROMOKRYZHEVAYA
fPOVODNAYAeTRYASKAcKUFISMAcOBLAKOcDUDAcNEMKAcPAUK"

end DocAudit.Text.Names
