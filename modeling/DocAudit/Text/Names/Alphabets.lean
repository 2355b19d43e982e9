/-!
# Names of letters

The names of the characters from U+0000 to U+1FFF: most living alphabets and syllabaries.
-/

namespace DocAudit.Text.Names

/-- The names from U+0000 on, in the shortened form that `Names.find` reads. -/
def alphabets : String := "
x32aSPACEaEXCLAMATION MARKaQUOTATION MARKaNUMBER SIGNaDOLLAR SIGNaPERCENT SIGNaAMPERSANDaAPOSTROPHE
aLEFT PARENTHESISaRIGHT PARENTHESISaASTERISKaPLUS SIGNaCOMMAaHYPHEN-MINUSaFULL STOPaSOLIDUS
aDIGIT ZERObONEbTWObTHREEbFOURbFIVEbSIXbSEVENbEIGHTbNINEaCOLONaSEMICOLONaLESS-THAN SIGNaEQUALS SIGN
aGREATER-THAN SIGNaQUESTION MARKaCOMMERCIAL ATaLATIN CAPITAL LETTER AdBdCdDdEdFdGdHdIdJdKdLdMdNdOdP
dQdRdSdTdUdVdWdXdYdZaLEFT SQUARE BRACKETaREVERSE SOLIDUSaRIGHT SQUARE BRACKETaCIRCUMFLEX ACCENT
aLOW LINEaGRAVE ACCENTaLATIN SMALL LETTER AdBdCdDdEdFdGdHdIdJdKdLdMdNdOdPdQdRdSdTdUdVdWdXdYdZ
aLEFT CURLY BRACKETaVERTICAL LINEaRIGHT CURLY BRACKETaTILDEx33aNO-BREAK SPACE
aINVERTED EXCLAMATION MARKaCENT SIGNaPOUND SIGNaCURRENCY SIGNaYEN SIGNaBROKEN BARaSECTION SIGN
aDIAERESISaCOPYRIGHT SIGNaFEMININE ORDINAL INDICATORaLEFT-POINTING DOUBLE ANGLE QUOTATION MARK
aNOT SIGNaSOFT HYPHENaREGISTERED SIGNaMACRONaDEGREE SIGNaPLUS-MINUS SIGNaSUPERSCRIPT TWObTHREE
aACUTE ACCENTaMICRO SIGNaPILCROW SIGNaMIDDLE DOTaCEDILLAaSUPERSCRIPT ONE
aMASCULINE ORDINAL INDICATORaRIGHT-POINTING DOUBLE ANGLE QUOTATION MARKaVULGAR FRACTION ONE QUARTER
dHALFcTHREE QUARTERSaINVERTED QUESTION MARKaLATIN CAPITAL LETTER A WITH GRAVEfACUTEfCIRCUMFLEX
fTILDEfDIAERESISfRING ABOVEdAEdC WITH CEDILLAdE WITH GRAVEfACUTEfCIRCUMFLEXfDIAERESISdI WITH GRAVE
fACUTEfCIRCUMFLEXfDIAERESISdETHdN WITH TILDEdO WITH GRAVEfACUTEfCIRCUMFLEXfTILDEfDIAERESIS
aMULTIPLICATION SIGNaLATIN CAPITAL LETTER O WITH STROKEdU WITH GRAVEfACUTEfCIRCUMFLEXfDIAERESIS
dY WITH ACUTEdTHORNbSMALL LETTER SHARP SdA WITH GRAVEfACUTEfCIRCUMFLEXfTILDEfDIAERESISfRING ABOVE
dAEdC WITH CEDILLAdE WITH GRAVEfACUTEfCIRCUMFLEXfDIAERESISdI WITH GRAVEfACUTEfCIRCUMFLEXfDIAERESIS
dETHdN WITH TILDEdO WITH GRAVEfACUTEfCIRCUMFLEXfTILDEfDIAERESISaDIVISION SIGN
aLATIN SMALL LETTER O WITH STROKEdU WITH GRAVEfACUTEfCIRCUMFLEXfDIAERESISdY WITH ACUTEdTHORN
dY WITH DIAERESISbCAPITAL LETTER A WITH MACRONbSMALL LETTER A WITH MACRON
bCAPITAL LETTER A WITH BREVEbSMALL LETTER A WITH BREVEbCAPITAL LETTER A WITH OGONEK
bSMALL LETTER A WITH OGONEKbCAPITAL LETTER C WITH ACUTEbSMALL LETTER C WITH ACUTE
bCAPITAL LETTER C WITH CIRCUMFLEXbSMALL LETTER C WITH CIRCUMFLEXbCAPITAL LETTER C WITH DOT ABOVE
bSMALL LETTER C WITH DOT ABOVEbCAPITAL LETTER C WITH CARONbSMALL LETTER C WITH CARON
bCAPITAL LETTER D WITH CARONbSMALL LETTER D WITH CARONbCAPITAL LETTER D WITH STROKE
bSMALL LETTER D WITH STROKEbCAPITAL LETTER E WITH MACRONbSMALL LETTER E WITH MACRON
bCAPITAL LETTER E WITH BREVEbSMALL LETTER E WITH BREVEbCAPITAL LETTER E WITH DOT ABOVE
bSMALL LETTER E WITH DOT ABOVEbCAPITAL LETTER E WITH OGONEKbSMALL LETTER E WITH OGONEK
bCAPITAL LETTER E WITH CARONbSMALL LETTER E WITH CARONbCAPITAL LETTER G WITH CIRCUMFLEX
bSMALL LETTER G WITH CIRCUMFLEXbCAPITAL LETTER G WITH BREVEbSMALL LETTER G WITH BREVE
bCAPITAL LETTER G WITH DOT ABOVEbSMALL LETTER G WITH DOT ABOVEbCAPITAL LETTER G WITH CEDILLA
bSMALL LETTER G WITH CEDILLAbCAPITAL LETTER H WITH CIRCUMFLEXbSMALL LETTER H WITH CIRCUMFLEX
bCAPITAL LETTER H WITH STROKEbSMALL LETTER H WITH STROKEbCAPITAL LETTER I WITH TILDE
bSMALL LETTER I WITH TILDEbCAPITAL LETTER I WITH MACRONbSMALL LETTER I WITH MACRON
bCAPITAL LETTER I WITH BREVEbSMALL LETTER I WITH BREVEbCAPITAL LETTER I WITH OGONEK
bSMALL LETTER I WITH OGONEKbCAPITAL LETTER I WITH DOT ABOVEbSMALL LETTER DOTLESS I
bCAPITAL LIGATURE IJbSMALL LIGATURE IJbCAPITAL LETTER J WITH CIRCUMFLEX
bSMALL LETTER J WITH CIRCUMFLEXbCAPITAL LETTER K WITH CEDILLAbSMALL LETTER K WITH CEDILLAdKRA
bCAPITAL LETTER L WITH ACUTEbSMALL LETTER L WITH ACUTEbCAPITAL LETTER L WITH CEDILLA
bSMALL LETTER L WITH CEDILLAbCAPITAL LETTER L WITH CARONbSMALL LETTER L WITH CARON
bCAPITAL LETTER L WITH MIDDLE DOTbSMALL LETTER L WITH MIDDLE DOTbCAPITAL LETTER L WITH STROKE
bSMALL LETTER L WITH STROKEbCAPITAL LETTER N WITH ACUTEbSMALL LETTER N WITH ACUTE
bCAPITAL LETTER N WITH CEDILLAbSMALL LETTER N WITH CEDILLAbCAPITAL LETTER N WITH CARON
bSMALL LETTER N WITH CARONePRECEDED BY APOSTROPHEbCAPITAL LETTER ENGbSMALL LETTER ENG
bCAPITAL LETTER O WITH MACRONbSMALL LETTER O WITH MACRONbCAPITAL LETTER O WITH BREVE
bSMALL LETTER O WITH BREVEbCAPITAL LETTER O WITH DOUBLE ACUTEbSMALL LETTER O WITH DOUBLE ACUTE
bCAPITAL LIGATURE OEbSMALL LIGATURE OEbCAPITAL LETTER R WITH ACUTEbSMALL LETTER R WITH ACUTE
bCAPITAL LETTER R WITH CEDILLAbSMALL LETTER R WITH CEDILLAbCAPITAL LETTER R WITH CARON
bSMALL LETTER R WITH CARONbCAPITAL LETTER S WITH ACUTEbSMALL LETTER S WITH ACUTE
bCAPITAL LETTER S WITH CIRCUMFLEXbSMALL LETTER S WITH CIRCUMFLEXbCAPITAL LETTER S WITH CEDILLA
bSMALL LETTER S WITH CEDILLAbCAPITAL LETTER S WITH CARONbSMALL LETTER S WITH CARON
bCAPITAL LETTER T WITH CEDILLAbSMALL LETTER T WITH CEDILLAbCAPITAL LETTER T WITH CARON
bSMALL LETTER T WITH CARONbCAPITAL LETTER T WITH STROKEbSMALL LETTER T WITH STROKE
bCAPITAL LETTER U WITH TILDEbSMALL LETTER U WITH TILDEbCAPITAL LETTER U WITH MACRON
bSMALL LETTER U WITH MACRONbCAPITAL LETTER U WITH BREVEbSMALL LETTER U WITH BREVE
bCAPITAL LETTER U WITH RING ABOVEbSMALL LETTER U WITH RING ABOVEbCAPITAL LETTER U WITH DOUBLE ACUTE
bSMALL LETTER U WITH DOUBLE ACUTEbCAPITAL LETTER U WITH OGONEKbSMALL LETTER U WITH OGONEK
bCAPITAL LETTER W WITH CIRCUMFLEXbSMALL LETTER W WITH CIRCUMFLEXbCAPITAL LETTER Y WITH CIRCUMFLEX
bSMALL LETTER Y WITH CIRCUMFLEXbCAPITAL LETTER Y WITH DIAERESISdZ WITH ACUTE
bSMALL LETTER Z WITH ACUTEbCAPITAL LETTER Z WITH DOT ABOVEbSMALL LETTER Z WITH DOT ABOVE
bCAPITAL LETTER Z WITH CARONbSMALL LETTER Z WITH CARONdLONG SdB WITH STROKE
bCAPITAL LETTER B WITH HOOKfTOPBARbSMALL LETTER B WITH TOPBARbCAPITAL LETTER TONE SIX
bSMALL LETTER TONE SIXbCAPITAL LETTER OPEN OdC WITH HOOKbSMALL LETTER C WITH HOOK
bCAPITAL LETTER AFRICAN DdD WITH HOOKfTOPBARbSMALL LETTER D WITH TOPBARdTURNED DELTA
bCAPITAL LETTER REVERSED EdSCHWAdOPEN EdF WITH HOOKbSMALL LETTER F WITH HOOK
bCAPITAL LETTER G WITH HOOKdGAMMAbSMALL LETTER HVbCAPITAL LETTER IOTAdI WITH STROKEdK WITH HOOK
bSMALL LETTER K WITH HOOKdL WITH BARdLAMBDA WITH STROKEbCAPITAL LETTER TURNED MdN WITH LEFT HOOK
bSMALL LETTER N WITH LONG RIGHT LEGbCAPITAL LETTER O WITH MIDDLE TILDEfHORN
bSMALL LETTER O WITH HORNbCAPITAL LETTER OIbSMALL LETTER OIbCAPITAL LETTER P WITH HOOK
bSMALL LETTER P WITH HOOKbLETTER YRbCAPITAL LETTER TONE TWObSMALL LETTER TONE TWO
bCAPITAL LETTER ESHbLETTER REVERSED ESH LOOPbSMALL LETTER T WITH PALATAL HOOK
bCAPITAL LETTER T WITH HOOKbSMALL LETTER T WITH HOOKbCAPITAL LETTER T WITH RETROFLEX HOOK
dU WITH HORNbSMALL LETTER U WITH HORNbCAPITAL LETTER UPSILONdV WITH HOOKdY WITH HOOK
bSMALL LETTER Y WITH HOOKbCAPITAL LETTER Z WITH STROKEbSMALL LETTER Z WITH STROKE
bCAPITAL LETTER EZHeREVERSEDbSMALL LETTER EZH REVERSEDeWITH TAILbLETTER TWO WITH STROKE
bCAPITAL LETTER TONE FIVEbSMALL LETTER TONE FIVEbLETTER INVERTED GLOTTAL STOP WITH STROKEcWYNN
cDENTAL CLICKcLATERAL CLICKcALVEOLAR CLICKcRETROFLEX CLICKbCAPITAL LETTER DZ WITH CARON
dD WITH SMALL LETTER Z WITH CARONbSMALL LETTER DZ WITH CARONbCAPITAL LETTER LJ
dL WITH SMALL LETTER JbSMALL LETTER LJbCAPITAL LETTER NJdN WITH SMALL LETTER JbSMALL LETTER NJ
bCAPITAL LETTER A WITH CARONbSMALL LETTER A WITH CARONbCAPITAL LETTER I WITH CARON
bSMALL LETTER I WITH CARONbCAPITAL LETTER O WITH CARONbSMALL LETTER O WITH CARON
bCAPITAL LETTER U WITH CARONbSMALL LETTER U WITH CARONbCAPITAL LETTER U WITH DIAERESIS AND MACRON
bSMALL LETTER U WITH DIAERESIS AND MACRONbCAPITAL LETTER U WITH DIAERESIS AND ACUTE
bSMALL LETTER U WITH DIAERESIS AND ACUTEbCAPITAL LETTER U WITH DIAERESIS AND CARON
bSMALL LETTER U WITH DIAERESIS AND CARONbCAPITAL LETTER U WITH DIAERESIS AND GRAVE
bSMALL LETTER U WITH DIAERESIS AND GRAVEdTURNED EbCAPITAL LETTER A WITH DIAERESIS AND MACRON
bSMALL LETTER A WITH DIAERESIS AND MACRONbCAPITAL LETTER A WITH DOT ABOVE AND MACRON
bSMALL LETTER A WITH DOT ABOVE AND MACRONbCAPITAL LETTER AE WITH MACRONbSMALL LETTER AE WITH MACRON
bCAPITAL LETTER G WITH STROKEbSMALL LETTER G WITH STROKEbCAPITAL LETTER G WITH CARON
bSMALL LETTER G WITH CARONbCAPITAL LETTER K WITH CARONbSMALL LETTER K WITH CARON
bCAPITAL LETTER O WITH OGONEKbSMALL LETTER O WITH OGONEKbCAPITAL LETTER O WITH OGONEK AND MACRON
bSMALL LETTER O WITH OGONEK AND MACRONbCAPITAL LETTER EZH WITH CARONbSMALL LETTER EZH WITH CARON
dJ WITH CARONbCAPITAL LETTER DZdD WITH SMALL LETTER ZbSMALL LETTER DZbCAPITAL LETTER G WITH ACUTE
bSMALL LETTER G WITH ACUTEbCAPITAL LETTER HWAIRdWYNNdN WITH GRAVEbSMALL LETTER N WITH GRAVE
bCAPITAL LETTER A WITH RING ABOVE AND ACUTEbSMALL LETTER A WITH RING ABOVE AND ACUTE
bCAPITAL LETTER AE WITH ACUTEbSMALL LETTER AE WITH ACUTEbCAPITAL LETTER O WITH STROKE AND ACUTE
bSMALL LETTER O WITH STROKE AND ACUTEbCAPITAL LETTER A WITH DOUBLE GRAVE
bSMALL LETTER A WITH DOUBLE GRAVEbCAPITAL LETTER A WITH INVERTED BREVE
bSMALL LETTER A WITH INVERTED BREVEbCAPITAL LETTER E WITH DOUBLE GRAVE
bSMALL LETTER E WITH DOUBLE GRAVEbCAPITAL LETTER E WITH INVERTED BREVE
bSMALL LETTER E WITH INVERTED BREVEbCAPITAL LETTER I WITH DOUBLE GRAVE
bSMALL LETTER I WITH DOUBLE GRAVEbCAPITAL LETTER I WITH INVERTED BREVE
bSMALL LETTER I WITH INVERTED BREVEbCAPITAL LETTER O WITH DOUBLE GRAVE
bSMALL LETTER O WITH DOUBLE GRAVEbCAPITAL LETTER O WITH INVERTED BREVE
bSMALL LETTER O WITH INVERTED BREVEbCAPITAL LETTER R WITH DOUBLE GRAVE
bSMALL LETTER R WITH DOUBLE GRAVEbCAPITAL LETTER R WITH INVERTED BREVE
bSMALL LETTER R WITH INVERTED BREVEbCAPITAL LETTER U WITH DOUBLE GRAVE
bSMALL LETTER U WITH DOUBLE GRAVEbCAPITAL LETTER U WITH INVERTED BREVE
bSMALL LETTER U WITH INVERTED BREVEbCAPITAL LETTER S WITH COMMA BELOW
bSMALL LETTER S WITH COMMA BELOWbCAPITAL LETTER T WITH COMMA BELOWbSMALL LETTER T WITH COMMA BELOW
bCAPITAL LETTER YOGHbSMALL LETTER YOGHbCAPITAL LETTER H WITH CARONbSMALL LETTER H WITH CARON
bCAPITAL LETTER N WITH LONG RIGHT LEGbSMALL LETTER D WITH CURLbCAPITAL LETTER OUbSMALL LETTER OU
bCAPITAL LETTER Z WITH HOOKbSMALL LETTER Z WITH HOOKbCAPITAL LETTER A WITH DOT ABOVE
bSMALL LETTER A WITH DOT ABOVEbCAPITAL LETTER E WITH CEDILLAbSMALL LETTER E WITH CEDILLA
bCAPITAL LETTER O WITH DIAERESIS AND MACRONbSMALL LETTER O WITH DIAERESIS AND MACRON
bCAPITAL LETTER O WITH TILDE AND MACRONbSMALL LETTER O WITH TILDE AND MACRON
bCAPITAL LETTER O WITH DOT ABOVEbSMALL LETTER O WITH DOT ABOVE
bCAPITAL LETTER O WITH DOT ABOVE AND MACRONbSMALL LETTER O WITH DOT ABOVE AND MACRON
bCAPITAL LETTER Y WITH MACRONbSMALL LETTER Y WITH MACRONdL WITH CURLdN WITH CURLdT WITH CURL
dDOTLESS JdDB DIGRAPHdQP DIGRAPHbCAPITAL LETTER A WITH STROKEdC WITH STROKE
bSMALL LETTER C WITH STROKEbCAPITAL LETTER L WITH BARdT WITH DIAGONAL STROKE
bSMALL LETTER S WITH SWASH TAILdZ WITH SWASH TAILbCAPITAL LETTER GLOTTAL STOP
bSMALL LETTER GLOTTAL STOPbCAPITAL LETTER B WITH STROKEdU BARdTURNED VdE WITH STROKE
bSMALL LETTER E WITH STROKEbCAPITAL LETTER J WITH STROKEbSMALL LETTER J WITH STROKE
bCAPITAL LETTER SMALL Q WITH HOOK TAILbSMALL LETTER Q WITH HOOK TAILbCAPITAL LETTER R WITH STROKE
bSMALL LETTER R WITH STROKEbCAPITAL LETTER Y WITH STROKEbSMALL LETTER Y WITH STROKEdTURNED AdALPHA
dTURNED ALPHAdB WITH HOOKdOPEN OdC WITH CURLdD WITH TAILfHOOKdREVERSED EdSCHWAeWITH HOOKdOPEN E
dREVERSED OPEN EgWITH HOOKdCLOSED REVERSED OPEN EdDOTLESS J WITH STROKEdG WITH HOOKdSCRIPT G
bLETTER SMALL CAPITAL GbSMALL LETTER GAMMAdRAMS HORNdTURNED HdH WITH HOOKdHENG WITH HOOK
dI WITH STROKEdIOTAbLETTER SMALL CAPITAL IbSMALL LETTER L WITH MIDDLE TILDEfBELTfRETROFLEX HOOK
dLEZHdTURNED MfWITH LONG LEGdM WITH HOOKdN WITH LEFT HOOKfRETROFLEX HOOKbLETTER SMALL CAPITAL N
bSMALL LETTER BARRED ObLETTER SMALL CAPITAL OEbSMALL LETTER CLOSED OMEGAdPHIdTURNED RfWITH LONG LEG
gHOOKdR WITH LONG LEGfTAILfFISHHOOKdREVERSED R WITH FISHHOOKbLETTER SMALL CAPITAL ReINVERTED R
bSMALL LETTER S WITH HOOKdESHdDOTLESS J WITH STROKE AND HOOKdSQUAT REVERSED ESHdESH WITH CURL
dTURNED TdT WITH RETROFLEX HOOKdU BARdUPSILONdV WITH HOOKdTURNED VeWeYbLETTER SMALL CAPITAL Y
bSMALL LETTER Z WITH RETROFLEX HOOKfCURLdEZHeWITH CURLbLETTER GLOTTAL STOP
cPHARYNGEAL VOICED FRICATIVEcINVERTED GLOTTAL STOPcSTRETCHED CcBILABIAL CLICKcSMALL CAPITAL B
bSMALL LETTER CLOSED OPEN EbLETTER SMALL CAPITAL G WITH HOOKeHbSMALL LETTER J WITH CROSSED-TAIL
dTURNED KbLETTER SMALL CAPITAL LbSMALL LETTER Q WITH HOOKbLETTER GLOTTAL STOP WITH STROKE
cREVERSED GLOTTAL STOP WITH STROKEbSMALL LETTER DZ DIGRAPHdDEZH DIGRAPHdDZ DIGRAPH WITH CURL
dTS DIGRAPHdTESH DIGRAPHdTC DIGRAPH WITH CURLdFENG DIGRAPHdLS DIGRAPHdLZ DIGRAPH
bLETTER BILABIAL PERCUSSIVEcBIDENTAL PERCUSSIVEbSMALL LETTER TURNED H WITH FISHHOOKhAND TAIL
aMODIFIER LETTER SMALL HeWITH HOOKdJdRdTURNED RfWITH HOOKdCAPITAL INVERTED RdWdYcPRIMEcDOUBLE PRIME
cTURNED COMMAcAPOSTROPHEcREVERSED COMMAcRIGHT HALF RINGcLEFT HALF RINGcGLOTTAL STOP
cREVERSED GLOTTAL STOPcLEFT ARROWHEADcRIGHT ARROWHEADcUP ARROWHEADcDOWN ARROWHEADcCIRCUMFLEX ACCENT
aCARONaMODIFIER LETTER VERTICAL LINEcMACRONcACUTE ACCENTcGRAVE ACCENTcLOW VERTICAL LINEdMACRON
dGRAVE ACCENTdACUTE ACCENTcTRIANGULAR COLONcHALF TRIANGULAR COLONcCENTRED RIGHT HALF RING
dLEFT HALF RINGcUP TACKcDOWN TACKcPLUS SIGNcMINUS SIGNaBREVEaDOT ABOVEaRING ABOVEaOGONEK
aSMALL TILDEaDOUBLE ACUTE ACCENTaMODIFIER LETTER RHOTIC HOOKcCROSS ACCENTcSMALL GAMMAdLdSdX
dREVERSED GLOTTAL STOPcEXTRA-HIGH TONE BARcHIGH TONE BARcMID TONE BARcLOW TONE BAR
cEXTRA-LOW TONE BARcYIN DEPARTING TONE MARKcYANG DEPARTING TONE MARKcVOICINGcUNASPIRATED
cDOUBLE APOSTROPHEcLOW DOWN ARROWHEADdUP ARROWHEADdLEFT ARROWHEADdRIGHT ARROWHEADdRING
cMIDDLE GRAVE ACCENTdDOUBLE GRAVE ACCENTeACUTE ACCENTcLOW TILDEcRAISED COLONcBEGIN HIGH TONE
cEND HIGH TONEcBEGIN LOW TONEcEND LOW TONEcSHELFcOPEN SHELFcLOW LEFT ARROWaCOMBINING GRAVE ACCENT
bACUTE ACCENTbCIRCUMFLEX ACCENTbTILDEbMACRONbOVERLINEbBREVEbDOT ABOVEbDIAERESISbHOOK ABOVE
bRING ABOVEbDOUBLE ACUTE ACCENTbCARONbVERTICAL LINE ABOVEbDOUBLE VERTICAL LINE ABOVEcGRAVE ACCENT
bCANDRABINDUbINVERTED BREVEbTURNED COMMA ABOVEbCOMMA ABOVEbREVERSED COMMA ABOVEbCOMMA ABOVE RIGHT
bGRAVE ACCENT BELOWbACUTE ACCENT BELOWbLEFT TACK BELOWbRIGHT TACK BELOWbLEFT ANGLE ABOVEbHORN
bLEFT HALF RING BELOWbUP TACK BELOWbDOWN TACK BELOWbPLUS SIGN BELOWbMINUS SIGN BELOW
bPALATALIZED HOOK BELOWbRETROFLEX HOOK BELOWbDOT BELOWbDIAERESIS BELOWbRING BELOWbCOMMA BELOW
bCEDILLAbOGONEKbVERTICAL LINE BELOWbBRIDGE BELOWbINVERTED DOUBLE ARCH BELOWbCARON BELOW
bCIRCUMFLEX ACCENT BELOWbBREVE BELOWbINVERTED BREVE BELOWbTILDE BELOWbMACRON BELOWbLOW LINE
bDOUBLE LOW LINEbTILDE OVERLAYbSHORT STROKE OVERLAYbLONG STROKE OVERLAYbSHORT SOLIDUS OVERLAY
bLONG SOLIDUS OVERLAYbRIGHT HALF RING BELOWbINVERTED BRIDGE BELOWbSQUARE BELOWbSEAGULL BELOW
bX ABOVEbVERTICAL TILDEbDOUBLE OVERLINEbGRAVE TONE MARKbACUTE TONE MARKbGREEK PERISPOMENIcKORONIS
cDIALYTIKA TONOScYPOGEGRAMMENIbBRIDGE ABOVEbEQUALS SIGN BELOWbDOUBLE VERTICAL LINE BELOW
bLEFT ANGLE BELOWbNOT TILDE ABOVEbHOMOTHETIC ABOVEbALMOST EQUAL TO ABOVEbLEFT RIGHT ARROW BELOW
bUPWARDS ARROW BELOWbGRAPHEME JOINERbRIGHT ARROWHEAD ABOVEbLEFT HALF RING ABOVEbFERMATAbX BELOW
bLEFT ARROWHEAD BELOWbRIGHT ARROWHEAD BELOWdAND UP ARROWHEAD BELOWcHALF RING ABOVEbDOT ABOVE RIGHT
bASTERISK BELOWbDOUBLE RING BELOWbZIGZAG ABOVEbDOUBLE BREVE BELOWcBREVEcMACRONdBELOWcTILDE
cINVERTED BREVEcRIGHTWARDS ARROW BELOWbLATIN SMALL LETTER AeEeIeOeUeCeDeHeMeReTeVeX
aGREEK CAPITAL LETTER HETAbSMALL LETTER HETAbCAPITAL LETTER ARCHAIC SAMPI
bSMALL LETTER ARCHAIC SAMPIbNUMERAL SIGNbLOWER NUMERAL SIGNbCAPITAL LETTER PAMPHYLIAN DIGAMMA
bSMALL LETTER PAMPHYLIAN DIGAMMAx2bYPOGEGRAMMENIbSMALL REVERSED LUNATE SIGMA SYMBOL
cDOTTED LUNATE SIGMA SYMBOLcREVERSED DOTTED LUNATE SIGMA SYMBOLbQUESTION MARKbCAPITAL LETTER YOTx4
bTONOSbDIALYTIKA TONOSbCAPITAL LETTER ALPHA WITH TONOSbANO TELEIAbCAPITAL LETTER EPSILON WITH TONOS
dETA WITH TONOSdIOTA WITH TONOSx1dOMICRON WITH TONOSx1dUPSILON WITH TONOSdOMEGA WITH TONOS
bSMALL LETTER IOTA WITH DIALYTIKA AND TONOSbCAPITAL LETTER ALPHAdBETAdGAMMAdDELTAdEPSILONdZETAdETA
dTHETAdIOTAdKAPPAdLAMDAdMUdNUdXIdOMICRONdPIdRHOx1dSIGMAdTAUdUPSILONdPHIdCHIdPSIdOMEGA
dIOTA WITH DIALYTIKAdUPSILON WITH DIALYTIKAbSMALL LETTER ALPHA WITH TONOSdEPSILON WITH TONOS
dETA WITH TONOSdIOTA WITH TONOSdUPSILON WITH DIALYTIKA AND TONOSdALPHAdBETAdGAMMAdDELTAdEPSILON
dZETAdETAdTHETAdIOTAdKAPPAdLAMDAdMUdNUdXIdOMICRONdPIdRHOdFINAL SIGMAdSIGMAdTAUdUPSILONdPHIdCHIdPSI
dOMEGAdIOTA WITH DIALYTIKAdUPSILON WITH DIALYTIKAdOMICRON WITH TONOSdUPSILON WITH TONOS
dOMEGA WITH TONOSbCAPITAL KAI SYMBOLbBETA SYMBOLbTHETA SYMBOLbUPSILON WITH HOOK SYMBOL
dACUTE AND HOOK SYMBOLdDIAERESIS AND HOOK SYMBOLbPHI SYMBOLbPI SYMBOLbKAI SYMBOL
bLETTER ARCHAIC KOPPAbSMALL LETTER ARCHAIC KOPPAbLETTER STIGMAbSMALL LETTER STIGMAbLETTER DIGAMMA
bSMALL LETTER DIGAMMAbLETTER KOPPAbSMALL LETTER KOPPAbLETTER SAMPIbSMALL LETTER SAMPI
aCOPTIC CAPITAL LETTER SHEIbSMALL LETTER SHEIbCAPITAL LETTER FEIbSMALL LETTER FEI
bCAPITAL LETTER KHEIbSMALL LETTER KHEIbCAPITAL LETTER HORIbSMALL LETTER HORIbCAPITAL LETTER GANGIA
bSMALL LETTER GANGIAbCAPITAL LETTER SHIMAbSMALL LETTER SHIMAbCAPITAL LETTER DEIbSMALL LETTER DEI
aGREEK KAPPA SYMBOLbRHO SYMBOLbLUNATE SIGMA SYMBOLbLETTER YOTbCAPITAL THETA SYMBOL
bLUNATE EPSILON SYMBOLbREVERSED LUNATE EPSILON SYMBOLbCAPITAL LETTER SHObSMALL LETTER SHO
bCAPITAL LUNATE SIGMA SYMBOLcLETTER SANbSMALL LETTER SANbRHO WITH STROKE SYMBOL
bCAPITAL REVERSED LUNATE SIGMA SYMBOLcDOTTED LUNATE SIGMA SYMBOL
cREVERSED DOTTED LUNATE SIGMA SYMBOLaCYRILLIC CAPITAL LETTER IE WITH GRAVEdIOdDJEdGJEdUKRAINIAN IE
dDZEdBYELORUSSIAN-UKRAINIAN IdYIdJEdLJEdNJEdTSHEdKJEdI WITH GRAVEdSHORT UdDZHEdAdBEdVEdGHEdDEdIE
dZHEdZEdIdSHORT IdKAdELdEMdENdOdPEdERdESdTEdUdEFdHAdTSEdCHEdSHAdSHCHAdHARD SIGNdYERUdSOFT SIGNdEdYU
dYAbSMALL LETTER AdBEdVEdGHEdDEdIEdZHEdZEdIdSHORT IdKAdELdEMdENdOdPEdERdESdTEdUdEFdHAdTSEdCHEdSHA
dSHCHAdHARD SIGNdYERUdSOFT SIGNdEdYUdYAdIE WITH GRAVEdIOdDJEdGJEdUKRAINIAN IEdDZE
dBYELORUSSIAN-UKRAINIAN IdYIdJEdLJEdNJEdTSHEdKJEdI WITH GRAVEdSHORT UdDZHEbCAPITAL LETTER OMEGA
bSMALL LETTER OMEGAbCAPITAL LETTER YATbSMALL LETTER YATbCAPITAL LETTER IOTIFIED E
bSMALL LETTER IOTIFIED EbCAPITAL LETTER LITTLE YUSbSMALL LETTER LITTLE YUS
bCAPITAL LETTER IOTIFIED LITTLE YUSbSMALL LETTER IOTIFIED LITTLE YUSbCAPITAL LETTER BIG YUS
bSMALL LETTER BIG YUSbCAPITAL LETTER IOTIFIED BIG YUSbSMALL LETTER IOTIFIED BIG YUS
bCAPITAL LETTER KSIbSMALL LETTER KSIbCAPITAL LETTER PSIbSMALL LETTER PSIbCAPITAL LETTER FITA
bSMALL LETTER FITAbCAPITAL LETTER IZHITSAbSMALL LETTER IZHITSA
bCAPITAL LETTER IZHITSA WITH DOUBLE GRAVE ACCENTbSMALL LETTER IZHITSA WITH DOUBLE GRAVE ACCENT
bCAPITAL LETTER UKbSMALL LETTER UKbCAPITAL LETTER ROUND OMEGAbSMALL LETTER ROUND OMEGA
bCAPITAL LETTER OMEGA WITH TITLObSMALL LETTER OMEGA WITH TITLObCAPITAL LETTER OTbSMALL LETTER OT
bCAPITAL LETTER KOPPAbSMALL LETTER KOPPAbTHOUSANDS SIGNaCOMBINING CYRILLIC TITLOcPALATALIZATION
cDASIA PNEUMATAcPSILI PNEUMATAcPOKRYTIEcHUNDRED THOUSANDS SIGNcMILLIONS SIGN
aCYRILLIC CAPITAL LETTER SHORT I WITH TAILbSMALL LETTER SHORT I WITH TAIL
bCAPITAL LETTER SEMISOFT SIGNbSMALL LETTER SEMISOFT SIGNbCAPITAL LETTER ER WITH TICK
bSMALL LETTER ER WITH TICKbCAPITAL LETTER GHE WITH UPTURNbSMALL LETTER GHE WITH UPTURN
bCAPITAL LETTER GHE WITH STROKEbSMALL LETTER GHE WITH STROKEbCAPITAL LETTER GHE WITH MIDDLE HOOK
bSMALL LETTER GHE WITH MIDDLE HOOKbCAPITAL LETTER ZHE WITH DESCENDER
bSMALL LETTER ZHE WITH DESCENDERbCAPITAL LETTER ZE WITH DESCENDERbSMALL LETTER ZE WITH DESCENDER
bCAPITAL LETTER KA WITH DESCENDERbSMALL LETTER KA WITH DESCENDER
bCAPITAL LETTER KA WITH VERTICAL STROKEbSMALL LETTER KA WITH VERTICAL STROKE
bCAPITAL LETTER KA WITH STROKEbSMALL LETTER KA WITH STROKEbCAPITAL LETTER BASHKIR KA
bSMALL LETTER BASHKIR KAbCAPITAL LETTER EN WITH DESCENDERbSMALL LETTER EN WITH DESCENDER
bCAPITAL LIGATURE EN GHEbSMALL LIGATURE EN GHEbCAPITAL LETTER PE WITH MIDDLE HOOK
bSMALL LETTER PE WITH MIDDLE HOOKbCAPITAL LETTER ABKHASIAN HAbSMALL LETTER ABKHASIAN HA
bCAPITAL LETTER ES WITH DESCENDERbSMALL LETTER ES WITH DESCENDERbCAPITAL LETTER TE WITH DESCENDER
bSMALL LETTER TE WITH DESCENDERbCAPITAL LETTER STRAIGHT UbSMALL LETTER STRAIGHT U
bCAPITAL LETTER STRAIGHT U WITH STROKEbSMALL LETTER STRAIGHT U WITH STROKE
bCAPITAL LETTER HA WITH DESCENDERbSMALL LETTER HA WITH DESCENDERbCAPITAL LIGATURE TE TSE
bSMALL LIGATURE TE TSEbCAPITAL LETTER CHE WITH DESCENDERbSMALL LETTER CHE WITH DESCENDER
bCAPITAL LETTER CHE WITH VERTICAL STROKEbSMALL LETTER CHE WITH VERTICAL STROKEbCAPITAL LETTER SHHA
bSMALL LETTER SHHAbCAPITAL LETTER ABKHASIAN CHEbSMALL LETTER ABKHASIAN CHE
bCAPITAL LETTER ABKHASIAN CHE WITH DESCENDERbSMALL LETTER ABKHASIAN CHE WITH DESCENDER
bLETTER PALOCHKAbCAPITAL LETTER ZHE WITH BREVEbSMALL LETTER ZHE WITH BREVE
bCAPITAL LETTER KA WITH HOOKbSMALL LETTER KA WITH HOOKbCAPITAL LETTER EL WITH TAIL
bSMALL LETTER EL WITH TAILbCAPITAL LETTER EN WITH HOOKbSMALL LETTER EN WITH HOOK
bCAPITAL LETTER EN WITH TAILbSMALL LETTER EN WITH TAILbCAPITAL LETTER KHAKASSIAN CHE
bSMALL LETTER KHAKASSIAN CHEbCAPITAL LETTER EM WITH TAILbSMALL LETTER EM WITH TAILdPALOCHKA
bCAPITAL LETTER A WITH BREVEbSMALL LETTER A WITH BREVEbCAPITAL LETTER A WITH DIAERESIS
bSMALL LETTER A WITH DIAERESISbCAPITAL LIGATURE A IEbSMALL LIGATURE A IE
bCAPITAL LETTER IE WITH BREVEbSMALL LETTER IE WITH BREVEbCAPITAL LETTER SCHWAbSMALL LETTER SCHWA
bCAPITAL LETTER SCHWA WITH DIAERESISbSMALL LETTER SCHWA WITH DIAERESIS
bCAPITAL LETTER ZHE WITH DIAERESISbSMALL LETTER ZHE WITH DIAERESISbCAPITAL LETTER ZE WITH DIAERESIS
bSMALL LETTER ZE WITH DIAERESISbCAPITAL LETTER ABKHASIAN DZEbSMALL LETTER ABKHASIAN DZE
bCAPITAL LETTER I WITH MACRONbSMALL LETTER I WITH MACRONbCAPITAL LETTER I WITH DIAERESIS
bSMALL LETTER I WITH DIAERESISbCAPITAL LETTER O WITH DIAERESISbSMALL LETTER O WITH DIAERESIS
bCAPITAL LETTER BARRED ObSMALL LETTER BARRED ObCAPITAL LETTER BARRED O WITH DIAERESIS
bSMALL LETTER BARRED O WITH DIAERESISbCAPITAL LETTER E WITH DIAERESISbSMALL LETTER E WITH DIAERESIS
bCAPITAL LETTER U WITH MACRONbSMALL LETTER U WITH MACRONbCAPITAL LETTER U WITH DIAERESIS
bSMALL LETTER U WITH DIAERESISbCAPITAL LETTER U WITH DOUBLE ACUTEbSMALL LETTER U WITH DOUBLE ACUTE
bCAPITAL LETTER CHE WITH DIAERESISbSMALL LETTER CHE WITH DIAERESIS
bCAPITAL LETTER GHE WITH DESCENDERbSMALL LETTER GHE WITH DESCENDER
bCAPITAL LETTER YERU WITH DIAERESISbSMALL LETTER YERU WITH DIAERESIS
bCAPITAL LETTER GHE WITH STROKE AND HOOKbSMALL LETTER GHE WITH STROKE AND HOOK
bCAPITAL LETTER HA WITH HOOKbSMALL LETTER HA WITH HOOKbCAPITAL LETTER HA WITH STROKE
bSMALL LETTER HA WITH STROKEbCAPITAL LETTER KOMI DEbSMALL LETTER KOMI DEbCAPITAL LETTER KOMI DJE
bSMALL LETTER KOMI DJEbCAPITAL LETTER KOMI ZJEbSMALL LETTER KOMI ZJEbCAPITAL LETTER KOMI DZJE
bSMALL LETTER KOMI DZJEbCAPITAL LETTER KOMI LJEbSMALL LETTER KOMI LJEbCAPITAL LETTER KOMI NJE
bSMALL LETTER KOMI NJEbCAPITAL LETTER KOMI SJEbSMALL LETTER KOMI SJEbCAPITAL LETTER KOMI TJE
bSMALL LETTER KOMI TJEbCAPITAL LETTER REVERSED ZEbSMALL LETTER REVERSED ZE
bCAPITAL LETTER EL WITH HOOKbSMALL LETTER EL WITH HOOKbCAPITAL LETTER LHAbSMALL LETTER LHA
bCAPITAL LETTER RHAbSMALL LETTER RHAbCAPITAL LETTER YAEbSMALL LETTER YAEbCAPITAL LETTER QA
bSMALL LETTER QAbCAPITAL LETTER WEbSMALL LETTER WEbCAPITAL LETTER ALEUT KAbSMALL LETTER ALEUT KA
bCAPITAL LETTER EL WITH MIDDLE HOOKbSMALL LETTER EL WITH MIDDLE HOOK
bCAPITAL LETTER EN WITH MIDDLE HOOKbSMALL LETTER EN WITH MIDDLE HOOK
bCAPITAL LETTER PE WITH DESCENDERbSMALL LETTER PE WITH DESCENDERbCAPITAL LETTER SHHA WITH DESCENDER
bSMALL LETTER SHHA WITH DESCENDERbCAPITAL LETTER EN WITH LEFT HOOKbSMALL LETTER EN WITH LEFT HOOK
bCAPITAL LETTER DZZHEbSMALL LETTER DZZHEbCAPITAL LETTER DCHEbSMALL LETTER DCHE
bCAPITAL LETTER EL WITH DESCENDERbSMALL LETTER EL WITH DESCENDERx1aARMENIAN CAPITAL LETTER AYBdBEN
dGIMdDAdECHdZAdEHdETdTOdZHEdINIdLIWNdXEHdCAdKENdHOdJAdGHADdCHEHdMENdYIdNOWdSHAdVOdCHAdPEHdJHEHdRA
dSEHdVEWdTIWNdREHdCOdYIWNdPIWRdKEHdOHdFEHx2bMODIFIER LETTER LEFT HALF RINGbAPOSTROPHEbEMPHASIS MARK
bEXCLAMATION MARKbCOMMAbQUESTION MARKbABBREVIATION MARKbSMALL LETTER TURNED AYBdAYBdBENdGIMdDAdECH
dZAdEHdETdTOdZHEdINIdLIWNdXEHdCAdKENdHOdJAdGHADdCHEHdMENdYIdNOWdSHAdVOdCHAdPEHdJHEHdRAdSEHdVEWdTIWN
dREHdCOdYIWNdPIWRdKEHdOHdFEHcLIGATURE ECH YIWNcLETTER YI WITH STROKEbFULL STOPbHYPHENx2
aRIGHT-FACING ARMENIAN ETERNITY SIGNaLEFT-FACING ARMENIAN ETERNITY SIGNaARMENIAN DRAM SIGNx1
aHEBREW ACCENT ETNAHTAcSEGOLcSHALSHELETcZAQEF QATANdGADOLcTIPEHAcREVIAcZARQAcPASHTAcYETIVcTEVIR
cGERESHdMUQDAMcGERSHAYIMcQARNEY PARAcTELISHA GEDOLAcPAZERcATNAH HAFUKHcMUNAHcMAHAPAKHcMERKHAdKEFULA
cDARGAcQADMAcTELISHA QETANAcYERAH BEN YOMOcOLEcILUYcDEHIcZINORbMARK MASORA CIRCLEbPOINT SHEVA
cHATAF SEGOLdPATAHdQAMATScHIRIQcTSEREcSEGOLcPATAHcQAMATScHOLAMdHASER FOR VAVcQUBUTScDAGESH OR MAPIQ
cMETEGbPUNCTUATION MAQAFbPOINT RAFEbPUNCTUATION PASEQbPOINT SHIN DOTcSIN DOTbPUNCTUATION SOF PASUQ
bMARK UPPER DOTcLOWER DOTbPUNCTUATION NUN HAFUKHAbPOINT QAMATS QATANx8bLETTER ALEFcBETcGIMELcDALET
cHEcVAVcZAYINcHETcTETcYODcFINAL KAFcKAFcLAMEDcFINAL MEMcMEMcFINAL NUNcNUNcSAMEKHcAYINcFINAL PEcPE
cFINAL TSADIcTSADIcQOFcRESHcSHINcTAVx4bYOD TRIANGLEbLIGATURE YIDDISH DOUBLE VAVdVAV YODdDOUBLE YOD
bPUNCTUATION GERESHcGERSHAYIMx11aARABIC NUMBER SIGNbSIGN SANAHbFOOTNOTE MARKERbSIGN SAFHAcSAMVAT
bNUMBER MARK ABOVEaARABIC-INDIC CUBE ROOTbFOURTH ROOTaARABIC RAYaARABIC-INDIC PER MILLE SIGN
cTEN THOUSAND SIGNaAFGHANI SIGNaARABIC COMMAbDATE SEPARATORbPOETIC VERSE SIGNbSIGN MISRA
cSALLALLAHOU ALAYHE WASSALLAMcALAYHE ASSALLAMcRAHMATULLAH ALAYHEcRADI ALLAHOU ANHUcTAKHALLUS
bSMALL HIGH TAHdLIGATURE ALEF WITH LAM WITH YEHdZAINcFATHAcDAMMAcKASRAbSEMICOLONbLETTER MARK
bEND OF TEXT MARKbTRIPLE DOT PUNCTUATION MARKbQUESTION MARKbLETTER KASHMIRI YEHcHAMZA
cALEF WITH MADDA ABOVEeHAMZA ABOVEcWAW WITH HAMZA ABOVEcALEF WITH HAMZA BELOWcYEH WITH HAMZA ABOVE
cALEFcBEHcTEH MARBUTAcTEHcTHEHcJEEMcHAHcKHAHcDALcTHALcREHcZAINcSEENcSHEENcSADcDADcTAHcZAHcAINcGHAIN
cKEHEH WITH TWO DOTS ABOVEeTHREE DOTS BELOWcFARSI YEH WITH INVERTED VfTWO DOTS ABOVE
fTHREE DOTS ABOVEbTATWEELbLETTER FEHcQAFcKAFcLAMcMEEMcNOONcHEHcWAWcALEF MAKSURAcYEHbFATHATAN
bDAMMATANbKASRATANbFATHAbDAMMAbKASRAbSHADDAbSUKUNbMADDAH ABOVEbHAMZA ABOVEcBELOWbSUBSCRIPT ALEF
bINVERTED DAMMAbMARK NOON GHUNNAbZWARAKAYbVOWEL SIGN SMALL V ABOVEdINVERTED SMALL V ABOVEdDOT BELOW
bREVERSED DAMMAbFATHA WITH TWO DOTSbWAVY HAMZA BELOWaARABIC-INDIC DIGIT ZEROcONEcTWOcTHREEcFOUR
cFIVEcSIXcSEVENcEIGHTcNINEaARABIC PERCENT SIGNbDECIMAL SEPARATORbTHOUSANDS SEPARATOR
bFIVE POINTED STARbLETTER DOTLESS BEHdQAFcSUPERSCRIPT ALEFcALEF WASLAdWITH WAVY HAMZA ABOVEgBELOW
cHIGH HAMZAeALEFeWAWcU WITH HAMZA ABOVEcHIGH HAMZA YEHcTTEHcTTEHEHcBEEHcTEH WITH RING
eTHREE DOTS ABOVE DOWNWARDScPEHcTEHEHcBEHEHcHAH WITH HAMZA ABOVEeTWO DOTS VERTICAL ABOVEcNYEHcDYEH
cHAH WITH THREE DOTS ABOVEcTCHEHcTCHEHEHcDDALcDAL WITH RINGeDOT BELOWgAND SMALL TAHcDAHALcDDAHAL
cDULcDAL WITH THREE DOTS ABOVE DOWNWARDSeFOUR DOTS ABOVEcRREHcREH WITH SMALL VeRINGeDOT BELOW
eSMALL V BELOWeDOT BELOW AND DOT ABOVEeTWO DOTS ABOVEcJEHcREH WITH FOUR DOTS ABOVE
cSEEN WITH DOT BELOW AND DOT ABOVEeTHREE DOTS BELOWhAND THREE DOTS ABOVEcSAD WITH TWO DOTS BELOW
eTHREE DOTS ABOVEcTAH WITH THREE DOTS ABOVEcAIN WITH THREE DOTS ABOVEcDOTLESS FEH
cFEH WITH DOT MOVED BELOWfBELOWcVEHcFEH WITH THREE DOTS BELOWcPEHEHcQAF WITH DOT ABOVE
eTHREE DOTS ABOVEcKEHEHcSWASH KAFcKAF WITH RINGeDOT ABOVEcNGcKAF WITH THREE DOTS BELOWcGAF
dWITH RINGcNGOEHcGAF WITH TWO DOTS BELOWcGUEHcGAF WITH THREE DOTS ABOVEcLAM WITH SMALL VeDOT ABOVE
eTHREE DOTS ABOVEgBELOWcNOON WITH DOT BELOWdGHUNNAcRNOONcNOON WITH RINGeTHREE DOTS ABOVE
cHEH DOACHASHMEEcTCHEH WITH DOT ABOVEcHEH WITH YEH ABOVEdGOALeWITH HAMZA ABOVEcTEH MARBUTA GOAL
cWAW WITH RINGcKIRGHIZ OEcOEcUcYUcKIRGHIZ YUcWAW WITH TWO DOTS ABOVEcVEcFARSI YEHcYEH WITH TAIL
eSMALL VcWAW WITH DOT ABOVEcEcYEH WITH THREE DOTS BELOWdBARREEeWITH HAMZA ABOVEbFULL STOPbLETTER AE
bSMALL HIGH LIGATURE SAD WITH LAM WITH ALEF MAKSURAeQAF WITH LAM WITH ALEF MAKSURA
dMEEM INITIAL FORMdLAM ALEFdJEEMdTHREE DOTSdSEENbEND OF AYAHbSTART OF RUB EL HIZB
bSMALL HIGH ROUNDED ZEROdUPRIGHT RECTANGULAR ZEROdDOTLESS HEAD OF KHAHdMEEM ISOLATED FORMcLOW SEEN
cHIGH MADDAcWAWcYEHcHIGH YEHdNOONbPLACE OF SAJDAHbEMPTY CENTRE LOW STOPdHIGH STOP
bROUNDED HIGH STOP WITH FILLED CENTREbSMALL LOW MEEMbLETTER DAL WITH INVERTED VcREH WITH INVERTED V
aEXTENDED ARABIC-INDIC DIGIT ZEROdONEdTWOdTHREEdFOURdFIVEdSIXdSEVENdEIGHTdNINE
aARABIC LETTER SHEEN WITH DOT BELOWcDAD WITH DOT BELOWcGHAIN WITH DOT BELOWbSIGN SINDHI AMPERSAND
dPOSTPOSITION MENbLETTER HEH WITH INVERTED VaSYRIAC END OF PARAGRAPHbSUPRALINEAR FULL STOP
bSUBLINEAR FULL STOPbSUPRALINEAR COLONbSUBLINEAR COLONbHORIZONTAL COLONbCOLON SKEWED LEFTdRIGHT
bSUPRALINEAR COLON SKEWED LEFTbSUBLINEAR COLON SKEWED RIGHTbCONTRACTIONbHARKLEAN OBELUScMETOBELUS
cASTERISCUSx1bABBREVIATION MARKbLETTER ALAPHcSUPERSCRIPT ALAPHcBETHcGAMALdGARSHUNIcDALATH
cDOTLESS DALATH RISHcHEcWAWcZAINcHETHcTETHdGARSHUNIcYUDHdHEcKAPHcLAMADHcMIMcNUNcSEMKATH
cFINAL SEMKATHcEcPEcREVERSED PEcSADHEcQAPHcRISHcSHINcTAWcPERSIAN BHETHdGHAMALdDHALATHbPTHAHA ABOVE
cBELOWcDOTTEDbZQAPHA ABOVEcBELOWcDOTTEDbRBASA ABOVEcBELOWbDOTTED ZLAMA HORIZONTALdANGULAR
bHBASA ABOVEcBELOWbHBASA-ESASA DOTTEDbESASA ABOVEcBELOWbRWAHAbFEMININE DOTbQUSHSHAYAbRUKKAKHA
bTWO VERTICAL DOTS ABOVEeBELOWbTHREE DOTS ABOVEdBELOWbOBLIQUE LINE ABOVEdBELOWbMUSICbBARREKHx2
bLETTER SOGDIAN ZHAINdKHAPHdFEaARABIC LETTER BEH WITH THREE DOTS HORIZONTALLY BELOW
eDOT BELOW AND THREE DOTS ABOVEeTHREE DOTS POINTING UPWARDS BELOWjAND TWO DOTS ABOVE
eTWO DOTS BELOW AND DOT ABOVEeINVERTED SMALL V BELOWeSMALL VcHAH WITH TWO DOTS ABOVE
eTHREE DOTS POINTING UPWARDS BELOWcDAL WITH TWO DOTS VERTICALLY BELOW AND SMALL TAH
eINVERTED SMALL V BELOWcREH WITH STROKEcSEEN WITH FOUR DOTS ABOVEcAIN WITH TWO DOTS ABOVE
eTHREE DOTS POINTING DOWNWARDS ABOVEeTWO DOTS VERTICALLY ABOVEcFEH WITH TWO DOTS BELOW
eTHREE DOTS POINTING UPWARDS BELOWcKEHEH WITH DOT ABOVEeTHREE DOTS ABOVEgPOINTING UPWARDS BELOW
cMEEM WITH DOT ABOVEfBELOWcNOON WITH TWO DOTS BELOWeSMALL TAHfVcLAM WITH BAR
cREH WITH TWO DOTS VERTICALLY ABOVEeHAMZA ABOVEcSEEN WITH TWO DOTS VERTICALLY ABOVE
cHAH WITH SMALL ARABIC LETTER TAH BELOWiAND TWO DOTScSEEN WITH SMALL ARABIC LETTER TAH AND TWO DOTS
cREH WITH SMALL ARABIC LETTER TAH AND TWO DOTScHAH WITH SMALL ARABIC LETTER TAH ABOVE
cALEF WITH EXTENDED ARABIC-INDIC DIGIT TWO ABOVEhTHREE ABOVE
cFARSI YEH WITH EXTENDED ARABIC-INDIC DIGIT TWO ABOVEiTHREE ABOVEiFOUR BELOW
cWAW WITH EXTENDED ARABIC-INDIC DIGIT TWO ABOVEhTHREE ABOVE
cYEH BARREE WITH EXTENDED ARABIC-INDIC DIGIT TWO ABOVEiTHREE ABOVE
cHAH WITH EXTENDED ARABIC-INDIC DIGIT FOUR BELOWcSEEN WITH EXTENDED ARABIC-INDIC DIGIT FOUR ABOVE
eINVERTED VcKAF WITH TWO DOTS ABOVEaTHAANA LETTER HAAcSHAVIYANIcNOONUcRAAcBAAcLHAVIYANIcKAAFUcALIFU
cVAAVUcMEEMUcFAAFUcDHAALUcTHAAcLAAMUcGAAFUcGNAVIYANIcSEENUcDAVIYANIcZAVIYANIcTAVIYANIcYAAcPAVIYANI
cJAVIYANIcCHAVIYANIcTTAAcHHAAcKHAAcTHAALUcZAAcSHEENUcSAADHUcDAADHUcTOcZOcAINUcGHAINUcQAAFUcWAAVU
bABAFILIbAABAAFILIbIBIFILIbEEBEEFILIbUBUFILIbOOBOOFILIbEBEFILIbEYBEYFILIbOBOFILIbOABOAFILIbSUKUN
bLETTER NAAx14aNKO DIGIT ZEROcONEcTWOcTHREEcFOURcFIVEcSIXcSEVENcEIGHTcNINEbLETTER AcEEcIcEcUcOOcO
cDAGBASINNAcNcBAcPAcTAcJAcCHAcDAcRAcRRAcSAcGBAcFAcKAcLAcNA WOLOSOcMAcNYAcNAcHAcWAcYAcNYA WOLOSO
cJONA JAdCHAdRAbCOMBINING SHORT HIGH TONEdLOW TONEdRISING TONEcLONG DESCENDING TONEdHIGH TONE
dLOW TONEdRISING TONEcNASALIZATION MARKcDOUBLE DOT ABOVEbHIGH TONE APOSTROPHEbLOW TONE APOSTROPHE
bSYMBOL OO DENNENcGBAKURUNENbCOMMAbEXCLAMATION MARKbLAJANYALANx2bDANTAYALANbDOROME SIGNbTAMAN SIGN
aSAMARITAN LETTER ALAFcBITcGAMANcDALATcIYcBAAcZENcITcTITcYUTcKAAFcLABATcMIMcNUNcSINGAATcINcFI
cTSAADIYcQUFcRISHcSHANcTAAFbMARK INcIN-ALAFcOCCLUSIONcDAGESHbMODIFIER LETTER EPENTHETIC YUT
bMARK EPENTHETIC YUTbVOWEL SIGN LONG EdEdOVERLONG AAdLONG AAdAAdOVERLONG AdLONG AdA
bMODIFIER LETTER SHORT AbVOWEL SIGN SHORT AdLONG UdUbMODIFIER LETTER IbVOWEL SIGN LONG IdIdOdSUKUN
bMARK NEQUDAAx2bPUNCTUATION NEQUDAAcAFSAAQcANGEDcBAUcATMAAUcSHIYYAALAAbABBREVIATION MARK
bPUNCTUATION MELODIC QITSAcZIQAAcQITSAcZAEFcTURUcARKAANUcSOF MASHFAATcANNAAUx1aMANDAIC LETTER HALQA
cABcAGcADcAHcUSHENNAcAZcITcATTcAKSAcAKcALcAMcANcAScINcAPcASZcAQcARcASHcATcDUSHENNAcKADcAIN
bAFFRICATION MARKbVOCALIZATION MARKbGEMINATION MARKx2bPUNCTUATIONx1aSYRIAC LETTER MALAYALAM NGAdJA
dNYAdTTAdNNAdNNNAdBHAdRAdLLAdLLLAdSSAx5aARABIC LETTER ALEF WITH ATTACHED FATHAfTOP RIGHT FATHA
eRIGHT MIDDLE STROKEeLEFT MIDDLE STROKEeATTACHED KASRAfBOTTOM RIGHT KASRAfROUND DOT ABOVE
fRIGHT ROUND DOTfLEFT ROUND DOTfROUND DOT BELOWeDOT ABOVEeATTACHED TOP RIGHT FATHA AND DOT ABOVE
eRIGHT MIDDLE STROKE AND DOT ABOVEeATTACHED BOTTOM RIGHT KASRA AND DOT ABOVE
fTOP RIGHT FATHA AND LEFT RINGeRIGHT MIDDLE STROKE AND LEFT RING
eATTACHED BOTTOM RIGHT KASRA AND LEFT RINGfRIGHT HAMZAfLEFT HAMZAbTATWEEL WITH OVERSTRUCK HAMZAeWAW
dTWO DOTS BELOWbLETTER THIN YEHbBASELINE ROUND DOTbRAISED ROUND DOT
bLETTER NOON WITH INVERTED SMALL VcHAH WITH INVERTED SMALL V BELOWcTAH WITH DOT BELOW
eTHREE DOTS BELOWcKEHEH WITH TWO DOTS VERTICALLY BELOWbVERTICAL TAILx1bPOUND MARK ABOVE
bPIASTRE MARK ABOVEx6bSMALL HIGH WORD AL-JUZcLOW WORD ISHMAAMeIMAALAeTASHEELbMADDA WAAJIB
bSUPERSCRIPT ALEF MOKHASSASbDOUBLED MADDAbHALF MADDA OVER MADDAbLETTER BEH WITH SMALL V BELOW
eHAMZA ABOVEcJEEM WITH TWO DOTS ABOVEcTAH WITH TWO DOTS ABOVE
cFEH WITH DOT BELOW AND THREE DOTS ABOVEcQAF WITH DOT BELOWcLAM WITH DOUBLE BAR
cMEEM WITH THREE DOTS ABOVEcYEH WITH TWO DOTS BELOW AND HAMZA ABOVEiDOT ABOVEcREH WITH LOOP
cWAW WITH DOT WITHINcROHINGYA YEHcLOW ALEFcDAL WITH THREE DOTS BELOWcSAD WITH THREE DOTS BELOW
cGAF WITH INVERTED STROKEcSTRAIGHT WAWcZAIN WITH INVERTED V ABOVEcAIN WITH THREE DOTS BELOW
cKAF WITH DOT BELOWcQAF WITH DOT BELOW AND NO DOTS ABOVEcBEH WITH SMALL MEEM ABOVE
cPEH WITH SMALL MEEM ABOVEcTEH WITH SMALL TEH ABOVEcREH WITH SMALL NOON ABOVE
cYEH WITH TWO DOTS BELOW AND SMALL NOON ABOVEcAFRICAN FEHdQAFdNOONcPEH WITH SMALL V
cTEH WITH SMALL VcTTEH WITH SMALL VcTCHEH WITH SMALL VcKEHEH WITH SMALL V
cGHAIN WITH THREE DOTS ABOVEcAFRICAN QAF WITH THREE DOTS ABOVEcJEEM WITH THREE DOTS ABOVEgBELOW
cLAM WITH SMALL ARABIC LETTER TAH ABOVEcGRAFbSMALL FARSI YEHcHIGH FARSI YEH
dYEH BARREE WITH TWO DOTS BELOWdWORD SAHdZAHbLARGE ROUND DOT ABOVEeBELOWbSUKUN BELOW
bLARGE CIRCLE BELOWcROUND DOT INSIDE CIRCLE BELOWbSMALL LOW WAWcHIGH WORD AR-RUBdSADdAINdQAF
dNOON WITH KASRAcLOW NOON WITH KASRAcHIGH WORD ATH-THALATHAeAS-SAJDAeAN-NISFeSAKTAeQIFeWAQFA
dFOOTNOTE MARKERdSIGN SAFHAbDISPUTED END OF AYAHbTURNED DAMMA BELOWbCURLY FATHAcDAMMAcKASRA
cFATHATANcDAMMATANcKASRATANbTONE ONE DOT ABOVEcTWO DOTS ABOVEcLOOP ABOVEcONE DOT BELOW
cTWO DOTS BELOWcLOOP BELOWbOPEN FATHATANcDAMMATANcKASRATANbSMALL HIGH WAWbFATHA WITH RINGdDOT ABOVE
bKASRA WITH DOT BELOWbLEFT ARROWHEAD ABOVEbRIGHT ARROWHEAD ABOVEbLEFT ARROWHEAD BELOW
bRIGHT ARROWHEAD BELOWbDOUBLE RIGHT ARROWHEAD ABOVEfWITH DOTbRIGHT ARROWHEAD ABOVE WITH DOT
bDAMMA WITH DOTbMARK SIDEWAYS NOON GHUNNAaDEVANAGARI SIGN INVERTED CANDRABINDUcCANDRABINDUcANUSVARA
cVISARGAbLETTER SHORT AcAcAAcIcIIcUcUUcVOCALIC RdLcCANDRA EcSHORT EcEcAIcCANDRA OcSHORT OcOcAUcKA
cKHAcGAcGHAcNGAcCAcCHAcJAcJHAcNYAcTTAcTTHAcDDAcDDHAcNNAcTAcTHAcDAcDHAcNAcNNNAcPAcPHAcBAcBHAcMAcYA
cRAcRRAcLAcLLAcLLLAcVAcSHAcSSAcSAcHAbVOWEL SIGN OEdOOEbSIGN NUKTAcAVAGRAHAbVOWEL SIGN AAdIdIIdUdUU
dVOCALIC ReRRdCANDRA EdSHORT EdEdAIdCANDRA OdSHORT OdOdAUbSIGN VIRAMAbVOWEL SIGN PRISHTHAMATRA EdAW
bOMbSTRESS SIGN UDATTAdANUDATTAbGRAVE ACCENTbACUTE ACCENTbVOWEL SIGN CANDRA LONG EdUEdUUEbLETTER QA
cKHHAcGHHAcZAcDDDHAcRHAcFAcYYAcVOCALIC RRdLLbVOWEL SIGN VOCALIC LeLLbDANDAbDOUBLE DANDAbDIGIT ZERO
cONEcTWOcTHREEcFOURcFIVEcSIXcSEVENcEIGHTcNINEbABBREVIATION SIGNbSIGN HIGH SPACING DOT
bLETTER CANDRA AcOEcOOEcAWcUEcUUEcMARWARI DDAcZHAcHEAVY YAcGGAcJJAcGLOTTAL STOPcDDDAcBBA
aBENGALI ANJIbSIGN CANDRABINDUcANUSVARAcVISARGAx1bLETTER AcAAcIcIIcUcUUcVOCALIC RdLx2cEcAIx2cOcAU
cKAcKHAcGAcGHAcNGAcCAcCHAcJAcJHAcNYAcTTAcTTHAcDDAcDDHAcNNAcTAcTHAcDAcDHAcNAx1cPAcPHAcBAcBHAcMAcYA
cRAx1cLAx3cSHAcSSAcSAcHAx2bSIGN NUKTAcAVAGRAHAbVOWEL SIGN AAdIdIIdUdUUdVOCALIC ReRRx2dEdAIx2dOdAU
bSIGN VIRAMAbLETTER KHANDA TAx8bAU LENGTH MARKx4bLETTER RRAcRHAx1cYYAcVOCALIC RRdLL
bVOWEL SIGN VOCALIC LeLLx2bDIGIT ZEROcONEcTWOcTHREEcFOURcFIVEcSIXcSEVENcEIGHTcNINE
bLETTER RA WITH MIDDLE DIAGONALeLOWER DIAGONALbRUPEE MARKcSIGNbCURRENCY NUMERATOR ONEdTWOdTHREE
dFOURdONE LESS THAN THE DENOMINATORcDENOMINATOR SIXTEENbISSHARbGANDA MARKbLETTER VEDIC ANUSVARA
bABBREVIATION SIGNbSANDHI MARKx2aGURMUKHI SIGN ADAK BINDIcBINDIcVISARGAx1bLETTER AcAAcIcIIcUcUUx4
cEEcAIx2cOOcAUcKAcKHAcGAcGHAcNGAcCAcCHAcJAcJHAcNYAcTTAcTTHAcDDAcDDHAcNNAcTAcTHAcDAcDHAcNAx1cPAcPHA
cBAcBHAcMAcYAcRAx1cLAcLLAx1cVAcSHAx1cSAcHAx2bSIGN NUKTAx1bVOWEL SIGN AAdIdIIdUdUUx4dEEdAIx2dOOdAU
bSIGN VIRAMAx3cUDAATx7bLETTER KHHAcGHHAcZAcRRAx1cFAx7bDIGIT ZEROcONEcTWOcTHREEcFOURcFIVEcSIXcSEVEN
cEIGHTcNINEbTIPPIbADDAKbIRIbURAbEK ONKARbSIGN YAKASHbABBREVIATION SIGNx10aGUJARATI SIGN CANDRABINDU
cANUSVARAcVISARGAx1bLETTER AcAAcIcIIcUcUUcVOCALIC RdLbVOWEL CANDRA Ex1bLETTER EcAIbVOWEL CANDRA Ox1
bLETTER OcAUcKAcKHAcGAcGHAcNGAcCAcCHAcJAcJHAcNYAcTTAcTTHAcDDAcDDHAcNNAcTAcTHAcDAcDHAcNAx1cPAcPHAcBA
cBHAcMAcYAcRAx1cLAcLLAx1cVAcSHAcSSAcSAcHAx2bSIGN NUKTAcAVAGRAHAbVOWEL SIGN AAdIdIIdUdUUdVOCALIC R
eRRdCANDRA Ex1dEdAIdCANDRA Ox1dOdAUbSIGN VIRAMAx2bOMx15bLETTER VOCALIC RRdLLbVOWEL SIGN VOCALIC L
eLLx2bDIGIT ZEROcONEcTWOcTHREEcFOURcFIVEcSIXcSEVENcEIGHTcNINEbABBREVIATION SIGNbRUPEE SIGNx7
bLETTER ZHAbSIGN SUKUNcSHADDAcMADDAHcTHREE-DOT NUKTA ABOVEcCIRCLE NUKTA ABOVE
cTWO-CIRCLE NUKTA ABOVEx1aORIYA SIGN CANDRABINDUcANUSVARAcVISARGAx1bLETTER AcAAcIcIIcUcUUcVOCALIC R
dLx2cEcAIx2cOcAUcKAcKHAcGAcGHAcNGAcCAcCHAcJAcJHAcNYAcTTAcTTHAcDDAcDDHAcNNAcTAcTHAcDAcDHAcNAx1cPA
cPHAcBAcBHAcMAcYAcRAx1cLAcLLAx1cVAcSHAcSSAcSAcHAx2bSIGN NUKTAcAVAGRAHAbVOWEL SIGN AAdIdIIdUdUU
dVOCALIC ReRRx2dEdAIx2dOdAUbSIGN VIRAMAx7cOVERLINEbAI LENGTH MARKbAU LENGTH MARKx4bLETTER RRAcRHAx1
cYYAcVOCALIC RRdLLbVOWEL SIGN VOCALIC LeLLx2bDIGIT ZEROcONEcTWOcTHREEcFOURcFIVEcSIXcSEVENcEIGHT
cNINEbISSHARbLETTER WAbFRACTION ONE QUARTERdHALFcTHREE QUARTERScONE SIXTEENTHdEIGHTH
cTHREE SIXTEENTHSx10aTAMIL SIGN ANUSVARAcVISARGAx1bLETTER AcAAcIcIIcUcUUx3cEcEEcAIx1cOcOOcAUcKAx3
cNGAcCAx1cJAx1cNYAcTTAx3cNNAcTAx3cNAcNNNAcPAx3cMAcYAcRAcRRAcLAcLLAcLLLAcVAcSHAcSSAcSAcHAx4
bVOWEL SIGN AAdIdIIdUdUUx3dEdEEdAIx1dOdOOdAUbSIGN VIRAMAx2bOMx6bAU LENGTH MARKx14bDIGIT ZEROcONE
cTWOcTHREEcFOURcFIVEcSIXcSEVENcEIGHTcNINEbNUMBER TENcONE HUNDREDdTHOUSANDbDAY SIGNbMONTH SIGN
bYEAR SIGNbDEBIT SIGNbCREDIT SIGNbAS ABOVE SIGNbRUPEE SIGNbNUMBER SIGNx5
aTELUGU SIGN COMBINING CANDRABINDU ABOVEcCANDRABINDUcANUSVARAcVISARGAcCOMBINING ANUSVARA ABOVE
bLETTER AcAAcIcIIcUcUUcVOCALIC RdLx1cEcEEcAIx1cOcOOcAUcKAcKHAcGAcGHAcNGAcCAcCHAcJAcJHAcNYAcTTAcTTHA
cDDAcDDHAcNNAcTAcTHAcDAcDHAcNAx1cPAcPHAcBAcBHAcMAcYAcRAcRRAcLAcLLAcLLLAcVAcSHAcSSAcSAcHAx2
bSIGN NUKTAcAVAGRAHAbVOWEL SIGN AAdIdIIdUdUUdVOCALIC ReRRx1dEdEEdAIx1dOdOOdAUbSIGN VIRAMAx7
bLENGTH MARKbAI LENGTH MARKx1bLETTER TSAcDZAcRRRAx2cNAKAARA POLLUx2cVOCALIC RRdLL
bVOWEL SIGN VOCALIC LeLLx2bDIGIT ZEROcONEcTWOcTHREEcFOURcFIVEcSIXcSEVENcEIGHTcNINEx7bSIGN SIDDHAM
bFRACTION DIGIT ZERO FOR ODD POWERS OF FOURdONE FOR ODD POWERS OF FOURdTWO FOR ODD POWERS OF FOUR
dTHREE FOR ODD POWERS OF FOURdONE FOR EVEN POWERS OF FOURdTWO FOR EVEN POWERS OF FOUR
dTHREE FOR EVEN POWERS OF FOURbSIGN TUUMUaKANNADA SIGN SPACING CANDRABINDUcCANDRABINDUcANUSVARA
cVISARGAcSIDDHAMbLETTER AcAAcIcIIcUcUUcVOCALIC RdLx1cEcEEcAIx1cOcOOcAUcKAcKHAcGAcGHAcNGAcCAcCHAcJA
cJHAcNYAcTTAcTTHAcDDAcDDHAcNNAcTAcTHAcDAcDHAcNAx1cPAcPHAcBAcBHAcMAcYAcRAcRRAcLAcLLAx1cVAcSHAcSSAcSA
cHAx2bSIGN NUKTAcAVAGRAHAbVOWEL SIGN AAdIdIIdUdUUdVOCALIC ReRRx1dEdEEdAIx1dOdOOdAUbSIGN VIRAMAx7
bLENGTH MARKbAI LENGTH MARKx6bLETTER NAKAARA POLLUcFAx1cVOCALIC RRdLLbVOWEL SIGN VOCALIC LeLLx2
bDIGIT ZEROcONEcTWOcTHREEcFOURcFIVEcSIXcSEVENcEIGHTcNINEx1bSIGN JIHVAMULIYAcUPADHMANIYAx13
aMALAYALAM SIGN COMBINING ANUSVARA ABOVEcCANDRABINDUcANUSVARAcVISARGAbLETTER VEDIC ANUSVARAcAcAAcI
cIIcUcUUcVOCALIC RdLx1cEcEEcAIx1cOcOOcAUcKAcKHAcGAcGHAcNGAcCAcCHAcJAcJHAcNYAcTTAcTTHAcDDAcDDHAcNNA
cTAcTHAcDAcDHAcNAcNNNAcPAcPHAcBAcBHAcMAcYAcRAcRRAcLAcLLAcLLLAcVAcSHAcSSAcSAcHAcTTTA
bSIGN VERTICAL BAR VIRAMAcCIRCULAR VIRAMAcAVAGRAHAbVOWEL SIGN AAdIdIIdUdUUdVOCALIC ReRRx1dEdEEdAIx1
dOdOOdAUbSIGN VIRAMAbLETTER DOT REPHbSIGN PARAx4bLETTER CHILLU MdYdLLLbAU LENGTH MARK
bFRACTION ONE ONE-HUNDRED-AND-SIXTIETHdFORTIETHcTHREE EIGHTIETHScONE TWENTIETHdTENTH
cTHREE TWENTIETHScONE FIFTHbLETTER ARCHAIC IIcVOCALIC RRdLLbVOWEL SIGN VOCALIC LeLLx2bDIGIT ZERO
cONEcTWOcTHREEcFOURcFIVEcSIXcSEVENcEIGHTcNINEbNUMBER TENcONE HUNDREDdTHOUSANDbFRACTION ONE QUARTER
dHALFcTHREE QUARTERScONE SIXTEENTHdEIGHTHcTHREE SIXTEENTHSbDATE MARKbLETTER CHILLU NNdNdRRdLdLLdKx1
aSINHALA SIGN CANDRABINDUcANUSVARAYAcVISARGAYAx1bLETTER AYANNAcAAYANNAcAEYANNAcAEEYANNAcIYANNA
cIIYANNAcUYANNAcUUYANNAcIRUYANNAcIRUUYANNAcILUYANNAcILUUYANNAcEYANNAcEEYANNAcAIYANNAcOYANNAcOOYANNA
cAUYANNAx3cALPAPRAANA KAYANNAcMAHAAPRAANA KAYANNAcALPAPRAANA GAYANNAcMAHAAPRAANA GAYANNA
cKANTAJA NAASIKYAYAcSANYAKA GAYANNAcALPAPRAANA CAYANNAcMAHAAPRAANA CAYANNAcALPAPRAANA JAYANNA
cMAHAAPRAANA JAYANNAcTAALUJA NAASIKYAYAdSANYOOGA NAAKSIKYAYAcSANYAKA JAYANNAcALPAPRAANA TTAYANNA
cMAHAAPRAANA TTAYANNAcALPAPRAANA DDAYANNAcMAHAAPRAANA DDAYANNAcMUURDHAJA NAYANNAcSANYAKA DDAYANNA
cALPAPRAANA TAYANNAcMAHAAPRAANA TAYANNAcALPAPRAANA DAYANNAcMAHAAPRAANA DAYANNAcDANTAJA NAYANNAx1
cSANYAKA DAYANNAcALPAPRAANA PAYANNAcMAHAAPRAANA PAYANNAcALPAPRAANA BAYANNAcMAHAAPRAANA BAYANNA
cMAYANNAcAMBA BAYANNAcYAYANNAcRAYANNAx1cDANTAJA LAYANNAx2cVAYANNAcTAALUJA SAYANNAcMUURDHAJA SAYANNA
cDANTAJA SAYANNAcHAYANNAcMUURDHAJA LAYANNAcFAYANNAx3bSIGN AL-LAKUNAx4bVOWEL SIGN AELA-PILLA
dKETTI AEDA-PILLAdDIGA AEDA-PILLAdKETTI IS-PILLAdDIGA IS-PILLAdKETTI PAA-PILLAx1dDIGA PAA-PILLAx1
dGAETTA-PILLAdKOMBUVAdDIGA KOMBUVAdKOMBU DEKAdKOMBUVA HAA AELA-PILLAfDIGA AELA-PILLAfGAYANUKITTA
dGAYANUKITTAx6bLITH DIGIT ZEROdONEdTWOdTHREEdFOURdFIVEdSIXdSEVENdEIGHTdNINEx2
bVOWEL SIGN DIGA GAETTA-PILLAeGAYANUKITTAbPUNCTUATION KUNDDALIYAx12aTHAI CHARACTER KO KAIcKHO KHAI
dKHUATdKHWAIdKHONdRAKHANGcNGO NGUcCHO CHANdCHINGdCHANGcSO SOcCHO CHOEcYO YINGcDO CHADAcTO PATAK
cTHO THANdNANGMONTHOdPHUTHAOcNO NENcDO DEKcTO TAOcTHO THUNGdTHAHANdTHONGcNO NUcBO BAIMAIcPO PLA
cPHO PHUNGcFO FAcPHO PHANcFO FANcPHO SAMPHAOcMO MAcYO YAKcRO RUAcRUcLO LINGcLUcWO WAENcSO SALAdRUSI
dSUAcHO HIPcLO CHULAcO ANGcHO NOKHUKcPAIYANNOIcSARA AcMAI HAN-AKATcSARA AAdAMdIdIIdUEdUEEdUdUU
cPHINTHUx4bCURRENCY SYMBOL BAHTbCHARACTER SARA EdAEdOdAI MAIMUANeMAIMALAIcLAKKHANGYAOcMAIYAMOK
cMAITAIKHUcMAI EKdTHOdTRIdCHATTAWAcTHANTHAKHATcNIKHAHITcYAMAKKANcFONGMANbDIGIT ZEROcONEcTWOcTHREE
cFOURcFIVEcSIXcSEVENcEIGHTcNINEbCHARACTER ANGKHANKHUcKHOMUTx37aLAO LETTER KOcKHO SUNGx1dTAMx1
cPALI GHAcNGOcCOcPALI CHAcSO TAMx1cPALI JHAcNYOcPALI NYAdTTAdTTHAdDDAdDDHAdNNAcDOcTOcTHO SUNGdTAM
cPALI DHAcNOcBOcPOcPHO SUNGcFO TAMcPHO TAMcFO SUNGcPALI BHAcMOcYOcLO LINGx1dLOOTx1cWOcSANSKRIT SHA
dSSAcSO SUNGcHO SUNGcPALI LLAcOcHO TAMbELLIPSISbVOWEL SIGN AdMAI KANdAAdAMdIdIIdYdYYdUdUU
bSIGN PALI VIRAMAbVOWEL SIGN MAI KONbSEMIVOWEL SIGN LOdNYOx2bVOWEL SIGN EdEIdOdAYdAIx1bKO LAx1
bTONE MAI EKdTHOdTIdCATAWAbCANCELLATION MARKbNIGGAHITAx2bDIGIT ZEROcONEcTWOcTHREEcFOURcFIVEcSIX
cSEVENcEIGHTcNINEx2bHO NOcMObLETTER KHMU GOdNYOx32aTIBETAN SYLLABLE OM
bMARK GTER YIG MGO TRUNCATED Af-UM RNAM BCAD MAgGTER TSHEG MAcINITIAL YIG MGO MDUN MA
cCLOSING YIG MGO SGAB MAcCARET YIG MGO PHUR SHAD MAcYIG MGO TSHEG SHAD MAcSBRUL SHADcBSKUR YIG MGO
cBKA- SHOG YIG MGOcINTERSYLLABIC TSHEGcDELIMITER TSHEG BSTARcSHADcNYIS SHADcTSHEG SHAD
cNYIS TSHEG SHADcRIN CHEN SPUNGS SHADcRGYA GRAM SHADcCARET -DZUD RTAGS ME LONG CANcGTER TSHEG
bLOGOTYPE SIGN CHAD RTAGSdLHAG RTAGSbASTROLOGICAL SIGN SGRA GCAN -CHAR RTAGSd-KHYUD PAdSDONG TSHUGS
bSIGN RDEL DKAR GCIGeGNYISeGSUMdNAG GCIGeGNYISdDKAR RDEL NAGbDIGIT ZEROcONEcTWOcTHREEcFOURcFIVEcSIX
cSEVENcEIGHTcNINEcHALF ONEdTWOdTHREEdFOURdFIVEdSIXdSEVENdEIGHTdNINEdZERObMARK BSDUS RTAGS
cNGAS BZUNG NYI ZLAcCARET -DZUD RTAGS BZHI MIG CANcNGAS BZUNG SGOR RTAGScCHE MGOcTSA -PHRU
cGUG RTAGS GYONeGYAScANG KHANG GYONeGYASbSIGN YAR TSHEScMAR TSHESbLETTER KAcKHAcGAcGHAcNGAcCAcCHA
cJAx1cNYAcTTAcTTHAcDDAcDDHAcNNAcTAcTHAcDAcDHAcNAcPAcPHAcBAcBHAcMAcTSAcTSHAcDZAcDZHAcWAcZHAcZAc-AcYA
cRAcLAcSHAcSSAcSAcHAcAcKSSAcFIXED-FORM RAcKKAcRRAx4bVOWEL SIGN AAdIdIIdUdUUdVOCALIC ReRReLeLLdEdEE
dOdOObSIGN RJES SU NGA ROcRNAM BCADbVOWEL SIGN REVERSED IeIIbSIGN NYI ZLA NAA DAcSNA LDAN
bMARK HALANTAcPALUTAbSIGN LCI RTAGScYANG RTAGScLCE TSA CANcMCHU CANcGRU CAN RGYINGSdMED RGYINGS
cINVERTED MCHU CANbSUBJOINED SIGN LCE TSA CANdMCHU CANdINVERTED MCHU CANcLETTER KAdKHAdGAdGHAdNGA
dCAdCHAdJAx1dNYAdTTAdTTHAdDDAdDDHAdNNAdTAdTHAdDAdDHAdNAdPAdPHAdBAdBHAdMAdTSAdTSHAdDZAdDZHAdWAdZHA
dZAd-AdYAdRAdLAdSHAdSSAdSAdHAdAdKSSAdFIXED-FORM WAeYAeRAx1bKU RU KHAeBZHI MIG CAN
bCANTILLATION SIGN HEAVY BEATdLIGHT BEATdCANG TE-UdSBUB -CHALbSYMBOL DRIL BUcRDO RJEcPADMA GDAN
cRDO RJE RGYA GRAMcPHUR PAcNOR BUeNYIS -KHYILeGSUM -KHYILeBZHI -KHYILx1bSIGN RDEL NAG RDEL DKAR
eGSUMbMARK BSKA- SHOG GI MGO RGYANcMNYAM YIG GI MGO RGYANcNYIS TSHEG
cINITIAL BRDA RNYING YIG MGO MDUN MAcCLOSING BRDA RNYING YIG MGO SGAB MAaRIGHT-FACING SVASTI SIGN
aLEFT-FACING SVASTI SIGNaRIGHT-FACING SVASTI SIGN WITH DOTSaLEFT-FACING SVASTI SIGN WITH DOTS
aTIBETAN MARK LEADING MCHAN RTAGScTRAILING MCHAN RTAGSx37aMYANMAR LETTER KAcKHAcGAcGHAcNGAcCAcCHA
cJAcJHAcNYAcNNYAcTTAcTTHAcDDAcDDHAcNNAcTAcTHAcDAcDHAcNAcPAcPHAcBAcBHAcMAcYAcRAcLAcWAcSAcHAcLLAcA
cSHAN AcIcIIcUcUUcEcMON EcOcAUbVOWEL SIGN TALL AAdAAdIdIIdUdUUdEdAIdMON IIeOdE ABOVEbSIGN ANUSVARA
cDOT BELOWcVISARGAcVIRAMAcASATbCONSONANT SIGN MEDIAL YAeRAeWAeHAbLETTER GREAT SAbDIGIT ZEROcONEcTWO
cTHREEcFOURcFIVEcSIXcSEVENcEIGHTcNINEbSIGN LITTLE SECTIONcSECTIONbSYMBOL LOCATIVEcCOMPLETED
cAFOREMENTIONEDcGENITIVEbLETTER SHAcSSAcVOCALIC RdRRdLdLLbVOWEL SIGN VOCALIC ReRReLeLL
bLETTER MON NGAdJHAdBBAdBBEbCONSONANT SIGN MON MEDIAL NAfMAfLAbLETTER SGAW KAREN SHA
bVOWEL SIGN SGAW KAREN EUbTONE MARK SGAW KAREN HATHIfKE PHObLETTER WESTERN PWO KAREN THAfPWA
bVOWEL SIGN WESTERN PWO KAREN EUgUEbSIGN WESTERN PWO KAREN TONE-1fTONE-2fTONE-3fTONE-4fTONE-5
bLETTER EASTERN PWO KAREN NNAfYWAfGHWAbVOWEL SIGN GEBA KAREN IdKAYAH OEeUeEEbLETTER SHAN KAdKHAdGA
dCAdZAdNYAdDAdNAdPHAdFAdBAdTHAdHAbCONSONANT SIGN SHAN MEDIAL WAbVOWEL SIGN SHAN AAeEfABOVEeFINAL Y
bSIGN SHAN TONE-2dTONE-3dTONE-5dTONE-6dCOUNCIL TONE-2eTONE-3eEMPHATIC TONEbLETTER RUMAI PALAUNG FA
bSIGN RUMAI PALAUNG TONE-5bSHAN DIGIT ZEROdONEdTWOdTHREEdFOURdFIVEdSIXdSEVENdEIGHTdNINE
bSIGN KHAMTI TONE-1dTONE-3bVOWEL SIGN AITON AeAIbSYMBOL SHAN ONEdEXCLAMATION
aGEORGIAN CAPITAL LETTER ANdBANdGANdDONdENdVINdZENdTANdINdKANdLASdMANdNARdONdPARdZHARdRAEdSANdTAR
dUNdPHARdKHARdGHANdQARdSHINdCHINdCANdJILdCILdCHARdXANdJHANdHAEdHEdHIEdWEdHARdHOEx1dYNx5dAENx2
bLETTER ANcBANcGANcDONcENcVINcZENcTANcINcKANcLAScMANcNARcONcPARcZHARcRAEcSANcTARcUNcPHARcKHARcGHAN
cQARcSHINcCHINcCANcJILcCILcCHARcXANcJHANcHAEcHEcHIEcWEcHARcHOEcFIcYNcELIFIcTURNED GANcAIN
bPARAGRAPH SEPARATORaMODIFIER LETTER GEORGIAN NARaGEORGIAN LETTER AENcHARD SIGNcLABIAL SIGN
aHANGUL CHOSEONG KIYEOKcSSANGKIYEOKcNIEUNcTIKEUTcSSANGTIKEUTcRIEULcMIEUMcPIEUPcSSANGPIEUPcSIOS
cSSANGSIOScIEUNGcCIEUCcSSANGCIEUCcCHIEUCHcKHIEUKHcTHIEUTHcPHIEUPHcHIEUHcNIEUN-KIYEOKcSSANGNIEUN
cNIEUN-TIKEUTcNIEUN-PIEUPcTIKEUT-KIYEOKcRIEUL-NIEUNcSSANGRIEULcRIEUL-HIEUHcKAPYEOUNRIEUL
cMIEUM-PIEUPcKAPYEOUNMIEUMcPIEUP-KIYEOKcPIEUP-NIEUNcPIEUP-TIKEUTcPIEUP-SIOScPIEUP-SIOS-KIYEOK
cPIEUP-SIOS-TIKEUTcPIEUP-SIOS-PIEUPcPIEUP-SSANGSIOScPIEUP-SIOS-CIEUCcPIEUP-CIEUCcPIEUP-CHIEUCH
cPIEUP-THIEUTHcPIEUP-PHIEUPHcKAPYEOUNPIEUPcKAPYEOUNSSANGPIEUPcSIOS-KIYEOKcSIOS-NIEUNcSIOS-TIKEUT
cSIOS-RIEULcSIOS-MIEUMcSIOS-PIEUPcSIOS-PIEUP-KIYEOKcSIOS-SSANGSIOScSIOS-IEUNGcSIOS-CIEUC
cSIOS-CHIEUCHcSIOS-KHIEUKHcSIOS-THIEUTHcSIOS-PHIEUPHcSIOS-HIEUHcCHITUEUMSIOScCHITUEUMSSANGSIOS
cCEONGCHIEUMSIOScCEONGCHIEUMSSANGSIOScPANSIOScIEUNG-KIYEOKcIEUNG-TIKEUTcIEUNG-MIEUMcIEUNG-PIEUP
cIEUNG-SIOScIEUNG-PANSIOScSSANGIEUNGcIEUNG-CIEUCcIEUNG-CHIEUCHcIEUNG-THIEUTHcIEUNG-PHIEUPHcYESIEUNG
cCIEUC-IEUNGcCHITUEUMCIEUCcCHITUEUMSSANGCIEUCcCEONGCHIEUMCIEUCcCEONGCHIEUMSSANGCIEUC
cCHIEUCH-KHIEUKHcCHIEUCH-HIEUHcCHITUEUMCHIEUCHcCEONGCHIEUMCHIEUCHcPHIEUPH-PIEUPcKAPYEOUNPHIEUPH
cSSANGHIEUHcYEORINHIEUHcKIYEOK-TIKEUTcNIEUN-SIOScNIEUN-CIEUCcNIEUN-HIEUHcTIKEUT-RIEULcFILLER
bJUNGSEONG FILLERcAcAEcYAcYAEcEOcEcYEOcYEcOcWAcWAEcOEcYOcUcWEOcWEcWIcYUcEUcYIcIcA-OcA-UcYA-OcYA-YO
cEO-OcEO-UcEO-EUcYEO-OcYEO-UcO-EOcO-EcO-YEcO-OcO-UcYO-YAcYO-YAEcYO-YEOcYO-OcYO-IcU-AcU-AEcU-EO-EU
cU-YEcU-UcYU-AcYU-EOcYU-EcYU-YEOcYU-YEcYU-UcYU-IcEU-UcEU-EUcYI-UcI-AcI-YAcI-OcI-UcI-EUcI-ARAEA
cARAEAcARAEA-EOcARAEA-UcARAEA-IcSSANGARAEAcA-EUcYA-UcYEO-YAcO-YAcO-YAEbJONGSEONG KIYEOKcSSANGKIYEOK
cKIYEOK-SIOScNIEUNcNIEUN-CIEUCcNIEUN-HIEUHcTIKEUTcRIEULcRIEUL-KIYEOKcRIEUL-MIEUMcRIEUL-PIEUP
cRIEUL-SIOScRIEUL-THIEUTHcRIEUL-PHIEUPHcRIEUL-HIEUHcMIEUMcPIEUPcPIEUP-SIOScSIOScSSANGSIOScIEUNG
cCIEUCcCHIEUCHcKHIEUKHcTHIEUTHcPHIEUPHcHIEUHcKIYEOK-RIEULcKIYEOK-SIOS-KIYEOKcNIEUN-KIYEOK
cNIEUN-TIKEUTcNIEUN-SIOScNIEUN-PANSIOScNIEUN-THIEUTHcTIKEUT-KIYEOKcTIKEUT-RIEULcRIEUL-KIYEOK-SIOS
cRIEUL-NIEUNcRIEUL-TIKEUTcRIEUL-TIKEUT-HIEUHcSSANGRIEULcRIEUL-MIEUM-KIYEOKcRIEUL-MIEUM-SIOS
cRIEUL-PIEUP-SIOScRIEUL-PIEUP-HIEUHcRIEUL-KAPYEOUNPIEUPcRIEUL-SSANGSIOScRIEUL-PANSIOScRIEUL-KHIEUKH
cRIEUL-YEORINHIEUHcMIEUM-KIYEOKcMIEUM-RIEULcMIEUM-PIEUPcMIEUM-SIOScMIEUM-SSANGSIOScMIEUM-PANSIOS
cMIEUM-CHIEUCHcMIEUM-HIEUHcKAPYEOUNMIEUMcPIEUP-RIEULcPIEUP-PHIEUPHcPIEUP-HIEUHcKAPYEOUNPIEUP
cSIOS-KIYEOKcSIOS-TIKEUTcSIOS-RIEULcSIOS-PIEUPcPANSIOScIEUNG-KIYEOKcIEUNG-SSANGKIYEOKcSSANGIEUNG
cIEUNG-KHIEUKHcYESIEUNGcYESIEUNG-SIOScYESIEUNG-PANSIOScPHIEUPH-PIEUPcKAPYEOUNPHIEUPHcHIEUH-NIEUN
cHIEUH-RIEULcHIEUH-MIEUMcHIEUH-PIEUPcYEORINHIEUHcKIYEOK-NIEUNcKIYEOK-PIEUPcKIYEOK-CHIEUCH
cKIYEOK-KHIEUKHcKIYEOK-HIEUHcSSANGNIEUNaETHIOPIC SYLLABLE HAcHUcHIcHAAcHEEcHEcHOcHOAcLAcLUcLIcLAA
cLEEcLEcLOcLWAcHHAcHHUcHHIcHHAAcHHEEcHHEcHHOcHHWAcMAcMUcMIcMAAcMEEcMEcMOcMWAcSZAcSZUcSZIcSZAAcSZEE
cSZEcSZOcSZWAcRAcRUcRIcRAAcREEcREcROcRWAcSAcSUcSIcSAAcSEEcSEcSOcSWAcSHAcSHUcSHIcSHAAcSHEEcSHEcSHO
cSHWAcQAcQUcQIcQAAcQEEcQEcQOcQOAcQWAx1cQWIcQWAAcQWEEcQWEx2cQHAcQHUcQHIcQHAAcQHEEcQHEcQHOx1cQHWAx1
cQHWIcQHWAAcQHWEEcQHWEx2cBAcBUcBIcBAAcBEEcBEcBOcBWAcVAcVUcVIcVAAcVEEcVEcVOcVWAcTAcTUcTIcTAAcTEEcTE
cTOcTWAcCAcCUcCIcCAAcCEEcCEcCOcCWAcXAcXUcXIcXAAcXEEcXEcXOcXOAcXWAx1cXWIcXWAAcXWEEcXWEx2cNAcNUcNI
cNAAcNEEcNEcNOcNWAcNYAcNYUcNYIcNYAAcNYEEcNYEcNYOcNYWAcGLOTTAL AdUdIdAAdEEdEdOdWAcKAcKUcKIcKAAcKEE
cKEcKOcKOAcKWAx1cKWIcKWAAcKWEEcKWEx2cKXAcKXUcKXIcKXAAcKXEEcKXEcKXOx1cKXWAx1cKXWIcKXWAAcKXWEEcKXWEx2
cWAcWUcWIcWAAcWEEcWEcWOcWOAcPHARYNGEAL AdUdIdAAdEEdEdOx1cZAcZUcZIcZAAcZEEcZEcZOcZWAcZHAcZHUcZHI
cZHAAcZHEEcZHEcZHOcZHWAcYAcYUcYIcYAAcYEEcYEcYOcYOAcDAcDUcDIcDAAcDEEcDEcDOcDWAcDDAcDDUcDDIcDDAAcDDEE
cDDEcDDOcDDWAcJAcJUcJIcJAAcJEEcJEcJOcJWAcGAcGUcGIcGAAcGEEcGEcGOcGOAcGWAx1cGWIcGWAAcGWEEcGWEx2cGGA
cGGUcGGIcGGAAcGGEEcGGEcGGOcGGWAAcTHAcTHUcTHIcTHAAcTHEEcTHEcTHOcTHWAcCHAcCHUcCHIcCHAAcCHEEcCHEcCHO
cCHWAcPHAcPHUcPHIcPHAAcPHEEcPHEcPHOcPHWAcTSAcTSUcTSIcTSAAcTSEEcTSEcTSOcTSWAcTZAcTZUcTZIcTZAAcTZEE
cTZEcTZOcTZOAcFAcFUcFIcFAAcFEEcFEcFOcFWAcPAcPUcPIcPAAcPEEcPEcPOcPWAcRYAcMYAcFYAx2
bCOMBINING GEMINATION AND VOWEL LENGTH MARKcVOWEL LENGTH MARKcGEMINATION MARKbSECTION MARK
bWORDSPACEbFULL STOPbCOMMAbSEMICOLONbCOLONbPREFACE COLONbQUESTION MARKbPARAGRAPH SEPARATOR
bDIGIT ONEcTWOcTHREEcFOURcFIVEcSIXcSEVENcEIGHTcNINEbNUMBER TENcTWENTYcTHIRTYcFORTYcFIFTYcSIXTY
cSEVENTYcEIGHTYcNINETYcHUNDREDcTEN THOUSANDx3bSYLLABLE SEBATBEIT MWAcMWIcMWEEcMWEcSEBATBEIT BWAcBWI
cBWEEcBWEcSEBATBEIT FWAcFWIcFWEEcFWEcSEBATBEIT PWAcPWIcPWEEcPWEbTONAL MARK YIZETdDERETdRIKRIK
dSHORT RIKRIKdDIFATdKENATdCHIRETdHIDETdDERET-HIDETdKURTx6aCHEROKEE LETTER AcEcIcOcUcVcGAcKAcGEcGI
cGOcGUcGVcHAcHEcHIcHOcHUcHVcLAcLEcLIcLOcLUcLVcMAcMEcMIcMOcMUcNAcHNAcNAHcNEcNIcNOcNUcNVcQUAcQUEcQUI
cQUOcQUUcQUVcSAcScSEcSIcSOcSUcSVcDAcTAcDEcTEcDIcTIcDOcDUcDVcDLAcTLAcTLEcTLIcTLOcTLUcTLVcTSAcTSEcTSI
cTSOcTSUcTSVcWAcWEcWIcWOcWUcWVcYAcYEcYIcYOcYUcYVcMVx2bSMALL LETTER YEdYIdYOdYUdYVdMVx2
aCANADIAN SYLLABICS HYPHENcEcAAIcIcIIcOcOOcY-CREE OOcCARRIER EEdIcAcAAcWEcWEST-CREE WEcWI
cWEST-CREE WIcWIIcWEST-CREE WIIcWOcWEST-CREE WOcWOOcWEST-CREE WOOcNASKAPI WOOcWAcWEST-CREE WAcWAA
cWEST-CREE WAAcNASKAPI WAAcAIcY-CREE WcGLOTTAL STOPcFINAL ACUTEdGRAVEdBOTTOM HALF RING
dTOP HALF RINGdRIGHT HALF RINGdRINGdDOUBLE ACUTEeSHORT VERTICAL STROKESdMIDDLE DOT
dSHORT HORIZONTAL STROKEdPLUSdDOWN TACKcENcINcONcANcPEcPAAIcPIcPIIcPOcPOOcY-CREE POOcCARRIER HEEdHI
cPAcPAAcPWEcWEST-CREE PWEcPWIcWEST-CREE PWIcPWIIcWEST-CREE PWIIcPWOcWEST-CREE PWOcPWOO
cWEST-CREE PWOOcPWAcWEST-CREE PWAcPWAAcWEST-CREE PWAAcY-CREE PWAAcPcWEST-CREE PcCARRIER HcTEcTAAI
cTIcTIIcTOcTOOcY-CREE TOOcCARRIER DEEdDIcTAcTAAcTWEcWEST-CREE TWEcTWIcWEST-CREE TWIcTWII
cWEST-CREE TWIIcTWOcWEST-CREE TWOcTWOOcWEST-CREE TWOOcTWAcWEST-CREE TWAcTWAAcWEST-CREE TWAA
cNASKAPI TWAAcTcTTEcTTIcTTOcTTAcKEcKAAIcKIcKIIcKOcKOOcY-CREE KOOcKAcKAAcKWEcWEST-CREE KWEcKWI
cWEST-CREE KWIcKWIIcWEST-CREE KWIIcKWOcWEST-CREE KWOcKWOOcWEST-CREE KWOOcKWAcWEST-CREE KWAcKWAA
cWEST-CREE KWAAcNASKAPI KWAAcKcKWcSOUTH-SLAVEY KEHdKIHdKOHdKAHcCEcCAAIcCIcCIIcCOcCOOcY-CREE COOcCA
cCAAcCWEcWEST-CREE CWEcCWIcWEST-CREE CWIcCWIIcWEST-CREE CWIIcCWOcWEST-CREE CWOcCWOOcWEST-CREE CWOO
cCWAcWEST-CREE CWAcCWAAcWEST-CREE CWAAcNASKAPI CWAAcCcSAYISI THcMEcMAAIcMIcMIIcMOcMOOcY-CREE MOOcMA
cMAAcMWEcWEST-CREE MWEcMWIcWEST-CREE MWIcMWIIcWEST-CREE MWIIcMWOcWEST-CREE MWOcMWOOcWEST-CREE MWOO
cMWAcWEST-CREE MWAcMWAAcWEST-CREE MWAAcNASKAPI MWAAcMcWEST-CREE McMHcATHAPASCAN McSAYISI McNEcNAAI
cNIcNIIcNOcNOOcY-CREE NOOcNAcNAAcNWEcWEST-CREE NWEcNWAcWEST-CREE NWAcNWAAcWEST-CREE NWAA
cNASKAPI NWAAcNcCARRIER NGcNHcLEcLAAIcLIcLIIcLOcLOOcY-CREE LOOcLAcLAAcLWEcWEST-CREE LWEcLWI
cWEST-CREE LWIcLWIIcWEST-CREE LWIIcLWOcWEST-CREE LWOcLWOOcWEST-CREE LWOOcLWAcWEST-CREE LWAcLWAA
cWEST-CREE LWAAcLcWEST-CREE LcMEDIAL LcSEcSAAIcSIcSIIcSOcSOOcY-CREE SOOcSAcSAAcSWEcWEST-CREE SWE
cSWIcWEST-CREE SWIcSWIIcWEST-CREE SWIIcSWOcWEST-CREE SWOcSWOOcWEST-CREE SWOOcSWAcWEST-CREE SWAcSWAA
cWEST-CREE SWAAcNASKAPI SWAAcScATHAPASCAN ScSWcBLACKFOOT ScMOOSE-CREE SKcNASKAPI SKWdS-WdSPWAdSTWA
dSKWAdSCWAcSHEcSHIcSHIIcSHOcSHOOcSHAcSHAAcSHWEcWEST-CREE SHWEcSHWIcWEST-CREE SHWIcSHWII
cWEST-CREE SHWIIcSHWOcWEST-CREE SHWOcSHWOOcWEST-CREE SHWOOcSHWAcWEST-CREE SHWAcSHWAA
cWEST-CREE SHWAAcSHcYEcYAAIcYIcYIIcYOcYOOcY-CREE YOOcYAcYAAcYWEcWEST-CREE YWEcYWIcWEST-CREE YWI
cYWIIcWEST-CREE YWIIcYWOcWEST-CREE YWOcYWOOcWEST-CREE YWOOcYWAcWEST-CREE YWAcYWAAcWEST-CREE YWAA
cNASKAPI YWAAcYcBIBLE-CREE YcWEST-CREE YcSAYISI YIcREcR-CREE REcWEST-CREE LEcRAAIcRIcRIIcROcROO
cWEST-CREE LOcRAcRAAcWEST-CREE LAcRWAAcWEST-CREE RWAAcRcWEST-CREE RcMEDIAL RcFEcFAAIcFIcFIIcFOcFOO
cFAcFAAcFWAAcWEST-CREE FWAAcFcTHEcN-CREE THEcTHIcN-CREE THIcTHIIcN-CREE THIIcTHOcTHOOcTHAcTHAA
cTHWAAcWEST-CREE THWAAcTHcTTHEcTTHIcTTHOcTTHAcTTHcTYEcTYIcTYOcTYAcNUNAVIK HEdHIdHIIdHOdHOOdHAdHAAdH
cNUNAVUT HcHKcQAAIcQIcQIIcQOcQOOcQAcQAAcQcTLHEcTLHIcTLHOcTLHAcWEST-CREE REdRIdROdRAcNGAAIcNGIcNGII
cNGOcNGOOcNGAcNGAAcNGcNNGcSAYISI SHEdSHIdSHOdSHAcWOODS-CREE THEdTHIdTHOdTHAdTHcLHIcLHIIcLHOcLHOO
cLHAcLHAAcLHcTH-CREE THEdTHIdTHIIdTHOdTHOOdTHAdTHAAdTHcAIVILIK BcBLACKFOOT EdIdOdAdWEdWIdWOdWAdNE
dNIdNOdNAdKEdKIdKOdKAcSAYISI HEdHIdHOdHAcCARRIER GHUdGHOdGHEdGHEEdGHIdGHAdRUdROdREdREEdRIdRAdWUdWO
dWEdWEEdWIdWAdHWUdHWOdHWEdHWEEdHWIdHWAdTHUdTHOdTHEdTHEEdTHIdTHAdTTUdTTOdTTEdTTEEdTTIdTTAdPUdPOdPE
dPEEdPIdPAdPdGUdGOdGEdGEEdGIdGAdKHUdKHOdKHEdKHEEdKHIdKHAdKKUdKKOdKKEdKKEEdKKIdKKAdKKdNUdNOdNEdNEE
dNIdNAdMUdMOdMEdMEEdMIdMAdYUdYOdYEdYEEdYIdYAdJUcSAYISI JUcCARRIER JOdJEdJEEdJIcSAYISI JIcCARRIER JA
dJJUdJJOdJJEdJJEEdJJIdJJAdLUdLOdLEdLEEdLIdLAdDLUdDLOdDLEdDLEEdDLIdDLAdLHUdLHOdLHEdLHEEdLHIdLHAdTLHU
dTLHOdTLHEdTLHEEdTLHIdTLHAdTLUdTLOdTLEdTLEEdTLIdTLAdZUdZOdZEdZEEdZIdZAdZdINITIAL ZdDZUdDZOdDZEdDZEE
dDZIdDZAdSUdSOdSEdSEEdSIdSAdSHUdSHOdSHEdSHEEdSHIdSHAdSHdTSUdTSOdTSEdTSEEdTSIdTSAdCHUdCHOdCHEdCHEE
dCHIdCHAdTTSUdTTSOdTTSEdTTSEEdTTSIdTTSAcCHI SIGNcFULL STOPcQAIcNGAIcNNGIcNNGIIcNNGOcNNGOOcNNGA
cNNGAAcWOODS-CREE THWEEdTHWIdTHWIIdTHWOdTHWOOdTHWAdTHWAAdFINAL THcBLACKFOOT WaOGHAM SPACE MARK
bLETTER BEITHcLUIScFEARNcSAILcNIONcUATHcDAIRcTINNEcCOLLcCEIRTcMUINcGORTcNGEADALcSTRAIFcRUIScAILM
cONNcURcEADHADHcIODHADHcEABHADHcORcUILLEANNcIFINcEAMHANCHOLLcPEITHbFEATHER MARK
bREVERSED FEATHER MARKx3aRUNIC LETTER FEHU FEOH FE FcVcURUZ UR UcYRcYcWcTHURISAZ THURS THORNcETH
cANSUZ AcOS OcAC AcAESCcLONG-BRANCH-OSS OcSHORT-TWIG-OSS OcOcOEcONcRAIDO RAD REID RcKAUNAcCEN
cKAUN KcGcENGcGEBO GYFU GcGARcWUNJO WYNN WcHAGLAZ HcHAEGL HcLONG-BRANCH-HAGALL H
cSHORT-TWIG-HAGALL HcNAUDIZ NYD NAUD NcSHORT-TWIG-NAUD NcDOTTED-NcISAZ IS ISS IcEcJERAN JcGER
cLONG-BRANCH-AR AEcSHORT-TWIG-AR AcIWAZ EOHcPERTHO PEORTH PcALGIZ EOLHXcSOWILO S
cSIGEL LONG-BRANCH-SOL ScSHORT-TWIG-SOL ScCcZcTIWAZ TIR TYR TcSHORT-TWIG-TYR TcD
cBERKANAN BEORC BJARKAN BcSHORT-TWIG-BJARKAN BcDOTTED-PcOPEN-PcEHWAZ EH EcMANNAZ MAN M
cLONG-BRANCH-MADR McSHORT-TWIG-MADR McLAUKAZ LAGU LOGR LcDOTTED-LcINGWAZcINGcDAGAZ DAEG D
cOTHALAN ETHEL OcEARcIORcCWEORTHcCALCcCEALCcSTANcLONG-BRANCH-YRcSHORT-TWIG-YRcICELANDIC-YRcQcX
bSINGLE PUNCTUATIONbMULTIPLE PUNCTUATIONbCROSS PUNCTUATIONbARLAUG SYMBOLbTVIMADUR SYMBOL
bBELGTHOR SYMBOLbLETTER KcSHcOOcFRANKS CASKET OSeISeEHeACeAESCx7aTAGALOG LETTER AcIcUcKAcGAcNGAcTA
cDAcNAcPAcBAcMAcYAcRAcLAcWAcSAcHAbVOWEL SIGN IdUbSIGN VIRAMAcPAMUDPODx9bLETTER ARCHAIC RA
aHANUNOO LETTER AcIcUcKAcGAcNGAcTAcDAcNAcPAcBAcMAcYAcRAcLAcWAcSAcHAbVOWEL SIGN IdUbSIGN PAMUDPOD
aPHILIPPINE SINGLE PUNCTUATIONbDOUBLE PUNCTUATIONx9aBUHID LETTER AcIcUcKAcGAcNGAcTAcDAcNAcPAcBAcMA
cYAcRAcLAcWAcSAcHAbVOWEL SIGN IdUx12aTAGBANWA LETTER AcIcUcKAcGAcNGAcTAcDAcNAcPAcBAcMAcYAx1cLAcWA
cSAx1bVOWEL SIGN IdUx12aKHMER LETTER KAcKHAcKOcKHOcNGOcCAcCHAcCOcCHOcNYOcDAcTTHAcDOcTTHOcNNOcTAcTHA
cTOcTHOcNOcBAcPHAcPOcPHOcMOcYOcROcLOcVOcSHAcSSOcSAcHAcLAcQAbINDEPENDENT VOWEL QAQdQAAdQIdQIIdQUdQUK
dQUUdQUUVdRYdRYYdLYdLYYdQEdQAIdQOO TYPE ONEfTWOdQAUbVOWEL INHERENT AQdAAcSIGN AAdIdIIdYdYYdUdUUdUA
dOEdYAdIEdEdAEdAIdOOdAUbSIGN NIKAHITcREAHMUKcYUUKALEAPINTUcMUUSIKATOANcTRIISAPcBANTOCcROBAT
cTOANDAKHIATcKAKABATcAHSDAcSAMYOK SANNYAcVIRIAMcCOENGcBATHAMASATcKHANcBARIYOOSANcCAMNUC PII KUUH
cLEK TOOcBEYYALcPHNAEK MUANcKOOMUUTbCURRENCY SYMBOL RIELbSIGN AVAKRAHASANYAcATTHACANx2bDIGIT ZERO
cONEcTWOcTHREEcFOURcFIVEcSIXcSEVENcEIGHTcNINEx6bSYMBOL LEK ATTAK SONeMUOYePIIeBEIeBUONePRAM
ePRAM-MUOYePRAM-PIIePRAM-BEIePRAM-BUONx6aMONGOLIAN BIRGAbELLIPSISbCOMMAbFULL STOPbCOLONbFOUR DOTS
bTODO SOFT HYPHENbSIBE SYLLABLE BOUNDARY MARKERbMANCHU COMMAcFULL STOPbNIRUGU
bFREE VARIATION SELECTOR ONEeTWOeTHREEbVOWEL SEPARATORbFREE VARIATION SELECTOR FOURbDIGIT ZEROcONE
cTWOcTHREEcFOURcFIVEcSIXcSEVENcEIGHTcNINEx6bLETTER AcEcIcOcUcOEcUEcEEcNAcANGcBAcPAcQAcGAcMAcLAcSA
cSHAcTAcDAcCHAcJAcYAcRAcWAcFAcKAcKHAcTSAcZAcHAAcZRAcLHAcZHIcCHIcTODO LONG VOWEL SIGNdEdIdOdUdOEdUE
dANGdBAdPAdQAdGAdMAdTAdDAdCHAdJAdTSAdYAdWAdKAdGAAdHAAdJIAdNIAdDZAcSIBE EdIdIYdUEdUdANGdKAdGAdHAdPA
dSHAdTAdDAdJAdFAdGAAdHAAdTSAdZAdRAAdCHAdZHAcMANCHU IdKAdRAdFAdZHAcCHA WITH TWO DOTSx7
cALI GALI ANUSVARA ONEeVISARGA ONEeDAMARUeUBADAMAeINVERTED UBADAMAeBALUDAeTHREE BALUDAeAeIeKAeNGA
eCAeTTAeTTHAeDDAeNNAeTAeDAePAePHAeSSAeZHAeZAeAHcTODO ALI GALI TAfZHAcMANCHU ALI GALI GHAfNGAfCAfJHA
fTTAfDDHAfTAfDHAfSSAfCYAfZHAfZAcALI GALI HALF UfYAcMANCHU ALI GALI BHAcALI GALI DAGALGA
cMANCHU ALI GALI LHAx5aCANADIAN SYLLABICS OYcAYcAAYcWAYcPOYcPAYcPWOYcTAYcKAYcKWAYcMAYcNOYcNAYcLAY
cSOYcSAYcSHOYcSHAYcSHWOYcYOYcYAYcRAYcNWIcOJIBWAY NWIcNWIIcOJIBWAY NWIIcNWOcOJIBWAY NWOcNWOO
cOJIBWAY NWOOcRWEEcRWIcRWIIcRWOcRWOOcRWAcOJIBWAY PdTdKdCdMdNdSdSHcEASTERN WcWESTERN W
cFINAL SMALL RINGdRAISED DOTcR-CREE RWEcWEST-CREE LOOdLAAcTHWEcTHWAcTTHWEcTTHOOcTTHAAcTLHWEcTLHOO
cSAYISI SHWEdSHOOdHOOcCARRIER GWUdDENE GEEdGAAdGWAcSAYISI JUUcCARRIER JWAcBEAVER DENE LeR
cCARRIER DENTAL Sx10aLIMBU VOWEL-CARRIER LETTERbLETTER KAcKHAcGAcGHAcNGAcCAcCHAcJAcJHAcYANcTAcTHA
cDAcDHAcNAcPAcPHAcBAcBHAcMAcYAcRAcLAcWAcSHAcSSAcSAcHAcGYANcTRAx1bVOWEL SIGN AdIdUdEEdAIdOOdAUdEdO
bSUBJOINED LETTER YAdRAdWAx4bSMALL LETTER KAdNGAdANUSVARAdTAdNAdPAdMAdRAdLAbSIGN MUKPHRENG
cKEMPHRENGcSA-Ix4cLOOx3bEXCLAMATION MARKbQUESTION MARKbDIGIT ZEROcONEcTWOcTHREEcFOURcFIVEcSIXcSEVEN
cEIGHTcNINEaTAI LE LETTER KAdXAdNGAdTSAdSAdYAdTAdTHAdLAdPAdPHAdMAdFAdVAdHAdQAdKHAdTSHAdNAdAdIdEEdEH
dUdOOdOdUEdEdAUEdAIx2dTONE-2dTONE-3dTONE-4dTONE-5dTONE-6x11aNEW TAI LUE LETTER HIGH QAeLOW QA
eHIGH KAfXAfNGAeLOW KAfXAfNGAeHIGH TSAfSAfYAeLOW TSAfSAfYAeHIGH TAfTHAfNAeLOW TAfTHAfNAeHIGH PAfPHA
fMAeLOW PAfPHAfMAeHIGH FAfVAfLAeLOW FAfVAfLAeHIGH HAfDAfBAeLOW HAfDAfBAeHIGH KVAfXVAeLOW KVAfXVA
eHIGH SUAeLOW SUAx4dVOWEL SIGN VOWEL SHORTENERfAAfIIfUfUUfEfAEfOfOAfUEfAYfAAYfUYfOYfOAYfUEYfIY
dLETTER FINAL VfNGfNfMfKfDfBdTONE MARK-1eMARK-2x6dDIGIT ZEROeONEeTWOeTHREEeFOUReFIVEeSIXeSEVEN
eEIGHTeNINEdTHAM DIGIT ONEx3dSIGN LAEeLAEVaKHMER SYMBOL PATHAMASATcMUOY KOETcPII KOETcBEI KOET
cBUON KOETcPRAM KOETcPRAM-MUOY KOETcPRAM-PII KOETcPRAM-BEI KOETcPRAM-BUON KOETcDAP KOET
cDAP-MUOY KOETcDAP-PII KOETcDAP-BEI KOETcDAP-BUON KOETcDAP-PRAM KOETcTUTEYASATcMUOY ROCcPII ROC
cBEI ROCcBUON ROCcPRAM ROCcPRAM-MUOY ROCcPRAM-PII ROCcPRAM-BEI ROCcPRAM-BUON ROCcDAP ROC
cDAP-MUOY ROCcDAP-PII ROCcDAP-BEI ROCcDAP-BUON ROCcDAP-PRAM ROCaBUGINESE LETTER KAcGAcNGAcNGKAcPA
cBAcMAcMPAcTAcDAcNAcNRAcCAcJAcNYAcNYCAcYAcRAcLAcVAcSAcAcHAbVOWEL SIGN IdUdEdOdAEx2bPALLAWA
bEND OF SECTIONaTAI THAM LETTER HIGH KAeKHAeKXAdLOW KAeKXAeKHAdNGAdHIGH CAeCHAdLOW CAeSAeCHAdNYA
dRATAdHIGH RATHAdDAdLOW RATHAdRANAdHIGH TAeTHAdLOW TAeTHAdNAdBAdHIGH PAePHAeFAdLOW PAeFAePHAdMA
dLOW YAdHIGH YAdRAdRUEdLAdLUEdWAdHIGH SHAeSSAeSAeHAdLLAdAdLOW HAdIdIIdUdUUdEEdOOdLAEdGREAT SA
cCONSONANT SIGN MEDIAL RAfLAeLA TANG LAIcSIGN MAI KANG LAIcCONSONANT SIGN FINAL NGAeLOW PA
eHIGH RATHA OR LOW PAeMAeBAeSAx1cSIGN SAKOTcVOWEL SIGN AeMAI SATeAAeTALL AAeIeIIeUEeUUEeUeUUeO
eOA BELOWeOYeEeAEeOOeAIeTHAM AIeOA ABOVEcSIGN MAI KANGdTONE-1dTONE-2dKHUEN TONE-3eTONE-4eTONE-5
dRA HAAMdMAI SAMdKHUEN-LUE KARANx2cCOMBINING CRYPTOGRAMMIC DOTcHORA DIGIT ZEROeONEeTWOeTHREEeFOUR
eFIVEeSIXeSEVENeEIGHTeNINEx6cTHAM DIGIT ZEROeONEeTWOeTHREEeFOUReFIVEeSIXeSEVENeEIGHTeNINEx6
cSIGN WIANGdWIANGWAAKdSAWANdKEOWdHOYdDOKMAIdREVERSED ROTATED RANAdMAI YAMOKdKAANdKAANKUUdSATKAAN
dSATKAANKUUdHANGdCAANGx2aCOMBINING DOUBLED CIRCUMFLEX ACCENTbDIAERESIS-RINGbINFINITY
bDOWNWARDS ARROWbTRIPLE DOTbX-X BELOWbWIGGLY LINE BELOWbOPEN MARK BELOWbDOUBLE OPEN MARK BELOW
bLIGHT CENTRALIZATION STROKE BELOWbSTRONG CENTRALIZATION STROKE BELOWbPARENTHESES ABOVE
bDOUBLE PARENTHESES ABOVEbPARENTHESES BELOWcOVERLAYbLATIN SMALL LETTER W BELOWeTURNED W BELOW
bLEFT PARENTHESIS ABOVE LEFTbRIGHT PARENTHESIS ABOVE RIGHTbLEFT PARENTHESIS BELOW LEFT
bRIGHT PARENTHESIS BELOW RIGHTbSQUARE BRACKETS ABOVEbNUMBER SIGN ABOVEbINVERTED DOUBLE ARCH ABOVE
bPLUS SIGN ABOVEbDOUBLE PLUS SIGN ABOVEeBELOWbTRIPLE ACUTE ACCENTbLATIN SMALL LETTER INSULAR GfRfT
x49aBALINESE SIGN ULU RICEMdCANDRAcCECEKcSURANGcBISAHbLETTER AKARAdTEDUNGcIKARAdTEDUNGcUKARAdTEDUNG
cRA REPAeTEDUNGcLA LENGAeTEDUNGcEKARAcAIKARAcOKARAdTEDUNGcKAdMAHAPRANAcGAdGORAcNGAcCAdLACAcJAdJERA
cNYAcTA LATIKdMURDA MAHAPRANAcDA MURDA ALPAPRANAeMAHAPRANAcNA RAMBATcTAdTAWAcDAdMADUcNAcPAdKAPALcBA
dKEMBANGcMAcYAcRAcLAcWAcSA SAGAdSAPAcSAcHAbSIGN REREKANbVOWEL SIGN TEDUNGdULUeSARIdSUKUeILUT
dRA REPAfTEDUNGdLA LENGAfTEDUNGdTALINGeREPAeTEDUNGeREPA TEDUNGdPEPETeTEDUNGbADEG ADEG
bLETTER KAF SASAKcKHOT SASAKcTZIR SASAKcEF SASAKcVE SASAKcZAL SASAKcASYURA SASAKcARCHAIC JNYAx3
bDIGIT ZEROcONEcTWOcTHREEcFOURcFIVEcSIXcSEVENcEIGHTcNINEbPANTIbPAMADAbWINDUbCARIK PAMUNGKAHcSIKI
cPARERENbPAMENENGbMUSICAL SYMBOL DONGdDENGdDUNGdDANGeSURANGdDINGdDAENGdDEUNGdDAINGdDANG GEDE
dCOMBINING TEGEHeENDEPeKEMPULeKEMPLIeJEGOGANeKEMPUL WITH JEGOGANeKEMPLI WITH JEGOGANeBENDEeGONG
dRIGHT-HAND OPEN DUGfDAGeCLOSED TUKfTAKdLEFT-HAND OPEN PANGfPUNGeCLOSED PLAKfPLUKeOPEN PING
bPANTI LANTANGbPAMADA LANTANGx1aSUNDANESE SIGN PANYECEKcPANGLAYARcPANGWISADbLETTER AcIcUcAEcOcEcEU
cKAcQAcGAcNGAcCAcJAcZAcNYAcTAcDAcNAcPAcFAcVAcBAcMAcYAcRAcLAcWAcSAcXAcHAbCONSONANT SIGN PAMINGKAL
dPANYAKRAdPANYIKUbVOWEL SIGN PANGHULUdPANYUKUdPANAELAENGdPANOLONGdPAMEPETdPANEULEUNGbSIGN PAMAAEH
cVIRAMAbCONSONANT SIGN PASANGAN MAeWAbLETTER KHAcSYAbDIGIT ZEROcONEcTWOcTHREEcFOURcFIVEcSIXcSEVEN
cEIGHTcNINEbAVAGRAHAbLETTER REUcLEUcBHAcFINAL KdMaBATAK LETTER AcSIMALUNGUN AcHAcSIMALUNGUN HA
cMANDAILING HAcBAcKARO BAcPAcSIMALUNGUN PAcNAcMANDAILING NAcWAcSIMALUNGUN WAcPAKPAK WAcGA
cSIMALUNGUN GAcJAcDAcRAcSIMALUNGUN RAcMAcSIMALUNGUN MAcSOUTHERN TAcNORTHERN TAcSAcSIMALUNGUN SA
cMANDAILING SAcYAcSIMALUNGUN YAcNGAcLAcSIMALUNGUN LAcNYAcCAcNDAcMBAcIcUbSIGN TOMPIbVOWEL SIGN E
dPAKPAK EdEEdIdKARO IdOdKARO OdUeFOR SIMALUNGUN SAbCONSONANT SIGN NGdHbPANGOLATbPANONGONANx8
bSYMBOL BINDU NA METEKdPINARBORASdJUDULdPANGOLATaLEPCHA LETTER KAcKLAcKHAcGAcGLAcNGAcCAcCHAcJAcNYA
cTAcTHAcDAcNAcPAcPLAcPHAcFAcFLAcBAcBLAcMAcMLAcTSAcTSHAcDZAcYAcRAcLAcHAcHLAcVAcSAcSHAcWAcA
bSUBJOINED LETTER YAdRAbVOWEL SIGN AAdIdOdOOdUdUUdEbCONSONANT SIGN KdMdLdNdPdRdTdNYIN-DOdKANG
bSIGN RANcNUKTAx3bPUNCTUATION TA-ROLcNYET THYOOM TA-ROLcCER-WAcTSHOOK CER-WAcTSHOOKbDIGIT ZEROcONE
cTWOcTHREEcFOURcFIVEcSIXcSEVENcEIGHTcNINEx3bLETTER TTAcTTHAcDDAaOL CHIKI DIGIT ZEROdONEdTWOdTHREE
dFOURdFIVEdSIXdSEVENdEIGHTdNINEcLETTER LAdATdAGdANGdALdLAAdAAKdAAJdAAMdAAWdLIdISdIHdINYdIRdLUdUCdUD
dUNNdUYdLEdEPdEDDdENdERRdLOdOTTdOBdOVdOHcMU TTUDDAGcGAAHLAA TTUDDAAGcMU-GAAHLAA TTUDDAAGcRELAA
cPHAARKAAcAHADcPUNCTUATION MUCAADdDOUBLE MUCAADaCYRILLIC SMALL LETTER ROUNDED VEdLONG-LEGGED DE
dNARROW OdWIDE ESdTALL TEdTHREE-LEGGED TEdTALL HARD SIGNeYATdUNBLENDED UKx7
aGEORGIAN MTAVRULI CAPITAL LETTER ANeBANeGANeDONeENeVINeZENeTANeINeKANeLASeMANeNAReONePAReZHAReRAE
eSANeTAReUNePHAReKHAReGHANeQAReSHINeCHINeCANeJILeCILeCHAReXANeJHANeHAEeHEeHIEeWEeHAReHOEeFIeYN
eELIFIeTURNED GANeAINx2eAENeHARD SIGNeLABIAL SIGNaSUNDANESE PUNCTUATION BINDU SURYAdPANGLONG
dPURNAMAdCAKRAdLEU SATANGAdKA SATANGAdDA SATANGAdBA SATANGAx8aVEDIC TONE KARSHANAcSHARAcPRENKHA
bSIGN NIHSHVASAcYAJURVEDIC MIDLINE SVARITAbTONE YAJURVEDIC AGGRAVATED INDEPENDENT SVARITA
dINDEPENDENT SVARITAdKATHAKA INDEPENDENT SVARITAcCANDRA BELOW
cYAJURVEDIC KATHAKA INDEPENDENT SVARITA SCHROEDERcDOUBLE SVARITAcTRIPLE SVARITAcKATHAKA ANUDATTA
cDOT BELOWcTWO DOTS BELOWcTHREE DOTS BELOWcRIGVEDIC KASHMIRI INDEPENDENT SVARITA
cATHARVAVEDIC INDEPENDENT SVARITAbSIGN VISARGA SVARITAdUDATTAcREVERSED VISARGA UDATTA
cVISARGA ANUDATTAcREVERSED VISARGA ANUDATTAcVISARGA UDATTA WITH TAILdANUDATTA WITH TAIL
cANUSVARA ANTARGOMUKHAdBAHIRGOMUKHAdVAMAGOMUKHAeWITH TAILcTIRYAKcHEXIFORM LONG ANUSVARA
cLONG ANUSVARAcRTHANG LONG ANUSVARAcANUSVARA UBHAYATO MUKHAcARDHAVISARGAcROTATED ARDHAVISARGA
bTONE CANDRA ABOVEbSIGN JIHVAMULIYAcUPADHMANIYAcATIKRAMAbTONE RING ABOVEcDOUBLE RING ABOVE
bSIGN DOUBLE ANUSVARA ANTARGOMUKHAx5aLATIN LETTER SMALL CAPITAL AeAEbSMALL LETTER TURNED AE
bLETTER SMALL CAPITAL BARRED BeCeDeETHeEbSMALL LETTER TURNED OPEN EeIbLETTER SMALL CAPITAL JeK
eL WITH STROKEeMeREVERSED NeOeOPEN ObSMALL LETTER SIDEWAYS OeOPEN OeO WITH STROKEdTURNED OE
bLETTER SMALL CAPITAL OUbSMALL LETTER TOP HALF OdBOTTOM HALF ObLETTER SMALL CAPITAL PeREVERSED R
eTURNED ReTeUbSMALL LETTER SIDEWAYS UeDIAERESIZED UeTURNED MbLETTER SMALL CAPITAL VeWeZeEZH
cVOICED LARYNGEAL SPIRANTcAINaGREEK LETTER SMALL CAPITAL GAMMAeLAMDAePIeRHOePSI
aCYRILLIC LETTER SMALL CAPITAL ELaMODIFIER LETTER CAPITAL AdAEdBdBARRED BdDdEdREVERSED EdGdHdIdJdK
dLdMdNdREVERSED NdOdOUdPdRdTdUdWcSMALL AdTURNED AdALPHAdTURNED AEdBdDdEdSCHWAdOPEN EdTURNED OPEN E
dGdTURNED IdKdMdENGdOdOPEN OdTOP HALF OdBOTTOM HALF OdPdTdUdSIDEWAYS UdTURNED MdVdAINdBETA
dGREEK GAMMAdDELTAdGREEK PHIdCHIaLATIN SUBSCRIPT SMALL LETTER IeReUeV
aGREEK SUBSCRIPT SMALL LETTER BETAeGAMMAeRHOePHIeCHIaLATIN SMALL LETTER UEdB WITH MIDDLE TILDE
dD WITH MIDDLE TILDEdF WITH MIDDLE TILDEdM WITH MIDDLE TILDEdN WITH MIDDLE TILDE
dP WITH MIDDLE TILDEdR WITH MIDDLE TILDEfFISHHOOK AND MIDDLE TILDEdS WITH MIDDLE TILDE
dT WITH MIDDLE TILDEdZ WITH MIDDLE TILDEdTURNED GaMODIFIER LETTER CYRILLIC EN
aLATIN SMALL LETTER INSULAR GdTH WITH STRIKETHROUGHcCAPITAL LETTER I WITH STROKE
cLETTER IOTA WITH STROKEdP WITH STROKEcCAPITAL LETTER U WITH STROKEcLETTER UPSILON WITH STROKE
dB WITH PALATAL HOOKdD WITH PALATAL HOOKdF WITH PALATAL HOOKdG WITH PALATAL HOOK
dK WITH PALATAL HOOKdL WITH PALATAL HOOKdM WITH PALATAL HOOKdN WITH PALATAL HOOK
dP WITH PALATAL HOOKdR WITH PALATAL HOOKdS WITH PALATAL HOOKdESH WITH PALATAL HOOK
dV WITH PALATAL HOOKdX WITH PALATAL HOOKdZ WITH PALATAL HOOKdA WITH RETROFLEX HOOK
dALPHA WITH RETROFLEX HOOKdD WITH HOOK AND TAILdE WITH RETROFLEX HOOKdOPEN E WITH RETROFLEX HOOK
dREVERSED OPEN E WITH RETROFLEX HOOKdSCHWA WITH RETROFLEX HOOKdI WITH RETROFLEX HOOK
dOPEN O WITH RETROFLEX HOOKdESH WITH RETROFLEX HOOKdU WITH RETROFLEX HOOKdEZH WITH RETROFLEX HOOK
aMODIFIER LETTER SMALL TURNED ALPHAdCeWITH CURLdETHdREVERSED OPEN EdFdDOTLESS J WITH STROKE
dSCRIPT GdTURNED HdI WITH STROKEdIOTAdCAPITAL IfWITH STROKEdJ WITH CROSSED-TAIL
dL WITH RETROFLEX HOOKfPALATAL HOOKdCAPITAL LdM WITH HOOKdTURNED M WITH LONG LEGdN WITH LEFT HOOK
fRETROFLEX HOOKdCAPITAL NdBARRED OdPHIdS WITH HOOKdESHdT WITH PALATAL HOOKdU BARdUPSILONdCAPITAL U
dV WITH HOOKdTURNED VdZeWITH RETROFLEX HOOKfCURLdEZHdTHETAaCOMBINING DOTTED GRAVE ACCENT
cACUTE ACCENTbSNAKE BELOWbSUSPENSION MARKbMACRON-ACUTEbGRAVE-MACRONbMACRON-GRAVEbACUTE-MACRON
bGRAVE-ACUTE-GRAVEbACUTE-GRAVE-ACUTEbLATIN SMALL LETTER R BELOWbBREVE-MACRONbMACRON-BREVE
bDOUBLE CIRCUMFLEX ABOVEbOGONEK ABOVEbZIGZAG BELOWbIS BELOWbUR ABOVEbUS ABOVE
bLATIN SMALL LETTER FLATTENED OPEN A ABOVEeAEeAOeAVeC CEDILLAeINSULAR DeETHeG
cLETTER SMALL CAPITAL GcSMALL LETTER KeLcLETTER SMALL CAPITAL LfMcSMALL LETTER N
cLETTER SMALL CAPITAL NfRcSMALL LETTER R ROTUNDAeSeLONG SeZeALPHAeBeBETAeSCHWAeF
eL WITH DOUBLE MIDDLE TILDEeO WITH LIGHT CENTRALIZATION STROKEePeESH
eU WITH LIGHT CENTRALIZATION STROKEeWeA WITH DIAERESISeO WITH DIAERESISeU WITH DIAERESIS
bUP TACK ABOVEbKAVYKA ABOVE RIGHTdLEFTbDOT ABOVE LEFTbWIDE INVERTED BRIDGE BELOWbDOT BELOW LEFT
bDELETION MARKbDOUBLE INVERTED BREVE BELOWbALMOST EQUAL TO BELOWbLEFT ARROWHEAD ABOVE
bRIGHT ARROWHEAD AND DOWN ARROWHEAD BELOWaLATIN CAPITAL LETTER A WITH RING BELOW
bSMALL LETTER A WITH RING BELOWbCAPITAL LETTER B WITH DOT ABOVEbSMALL LETTER B WITH DOT ABOVE
bCAPITAL LETTER B WITH DOT BELOWbSMALL LETTER B WITH DOT BELOWbCAPITAL LETTER B WITH LINE BELOW
bSMALL LETTER B WITH LINE BELOWbCAPITAL LETTER C WITH CEDILLA AND ACUTE
bSMALL LETTER C WITH CEDILLA AND ACUTEbCAPITAL LETTER D WITH DOT ABOVE
bSMALL LETTER D WITH DOT ABOVEbCAPITAL LETTER D WITH DOT BELOWbSMALL LETTER D WITH DOT BELOW
bCAPITAL LETTER D WITH LINE BELOWbSMALL LETTER D WITH LINE BELOWbCAPITAL LETTER D WITH CEDILLA
bSMALL LETTER D WITH CEDILLAbCAPITAL LETTER D WITH CIRCUMFLEX BELOW
bSMALL LETTER D WITH CIRCUMFLEX BELOWbCAPITAL LETTER E WITH MACRON AND GRAVE
bSMALL LETTER E WITH MACRON AND GRAVEbCAPITAL LETTER E WITH MACRON AND ACUTE
bSMALL LETTER E WITH MACRON AND ACUTEbCAPITAL LETTER E WITH CIRCUMFLEX BELOW
bSMALL LETTER E WITH CIRCUMFLEX BELOWbCAPITAL LETTER E WITH TILDE BELOW
bSMALL LETTER E WITH TILDE BELOWbCAPITAL LETTER E WITH CEDILLA AND BREVE
bSMALL LETTER E WITH CEDILLA AND BREVEbCAPITAL LETTER F WITH DOT ABOVE
bSMALL LETTER F WITH DOT ABOVEbCAPITAL LETTER G WITH MACRONbSMALL LETTER G WITH MACRON
bCAPITAL LETTER H WITH DOT ABOVEbSMALL LETTER H WITH DOT ABOVEbCAPITAL LETTER H WITH DOT BELOW
bSMALL LETTER H WITH DOT BELOWbCAPITAL LETTER H WITH DIAERESISbSMALL LETTER H WITH DIAERESIS
bCAPITAL LETTER H WITH CEDILLAbSMALL LETTER H WITH CEDILLAbCAPITAL LETTER H WITH BREVE BELOW
bSMALL LETTER H WITH BREVE BELOWbCAPITAL LETTER I WITH TILDE BELOWbSMALL LETTER I WITH TILDE BELOW
bCAPITAL LETTER I WITH DIAERESIS AND ACUTEbSMALL LETTER I WITH DIAERESIS AND ACUTE
bCAPITAL LETTER K WITH ACUTEbSMALL LETTER K WITH ACUTEbCAPITAL LETTER K WITH DOT BELOW
bSMALL LETTER K WITH DOT BELOWbCAPITAL LETTER K WITH LINE BELOWbSMALL LETTER K WITH LINE BELOW
bCAPITAL LETTER L WITH DOT BELOWbSMALL LETTER L WITH DOT BELOW
bCAPITAL LETTER L WITH DOT BELOW AND MACRONbSMALL LETTER L WITH DOT BELOW AND MACRON
bCAPITAL LETTER L WITH LINE BELOWbSMALL LETTER L WITH LINE BELOW
bCAPITAL LETTER L WITH CIRCUMFLEX BELOWbSMALL LETTER L WITH CIRCUMFLEX BELOW
bCAPITAL LETTER M WITH ACUTEbSMALL LETTER M WITH ACUTEbCAPITAL LETTER M WITH DOT ABOVE
bSMALL LETTER M WITH DOT ABOVEbCAPITAL LETTER M WITH DOT BELOWbSMALL LETTER M WITH DOT BELOW
bCAPITAL LETTER N WITH DOT ABOVEbSMALL LETTER N WITH DOT ABOVEbCAPITAL LETTER N WITH DOT BELOW
bSMALL LETTER N WITH DOT BELOWbCAPITAL LETTER N WITH LINE BELOWbSMALL LETTER N WITH LINE BELOW
bCAPITAL LETTER N WITH CIRCUMFLEX BELOWbSMALL LETTER N WITH CIRCUMFLEX BELOW
bCAPITAL LETTER O WITH TILDE AND ACUTEbSMALL LETTER O WITH TILDE AND ACUTE
bCAPITAL LETTER O WITH TILDE AND DIAERESISbSMALL LETTER O WITH TILDE AND DIAERESIS
bCAPITAL LETTER O WITH MACRON AND GRAVEbSMALL LETTER O WITH MACRON AND GRAVE
bCAPITAL LETTER O WITH MACRON AND ACUTEbSMALL LETTER O WITH MACRON AND ACUTE
bCAPITAL LETTER P WITH ACUTEbSMALL LETTER P WITH ACUTEbCAPITAL LETTER P WITH DOT ABOVE
bSMALL LETTER P WITH DOT ABOVEbCAPITAL LETTER R WITH DOT ABOVEbSMALL LETTER R WITH DOT ABOVE
bCAPITAL LETTER R WITH DOT BELOWbSMALL LETTER R WITH DOT BELOW
bCAPITAL LETTER R WITH DOT BELOW AND MACRONbSMALL LETTER R WITH DOT BELOW AND MACRON
bCAPITAL LETTER R WITH LINE BELOWbSMALL LETTER R WITH LINE BELOWbCAPITAL LETTER S WITH DOT ABOVE
bSMALL LETTER S WITH DOT ABOVEbCAPITAL LETTER S WITH DOT BELOWbSMALL LETTER S WITH DOT BELOW
bCAPITAL LETTER S WITH ACUTE AND DOT ABOVEbSMALL LETTER S WITH ACUTE AND DOT ABOVE
bCAPITAL LETTER S WITH CARON AND DOT ABOVEbSMALL LETTER S WITH CARON AND DOT ABOVE
bCAPITAL LETTER S WITH DOT BELOW AND DOT ABOVEbSMALL LETTER S WITH DOT BELOW AND DOT ABOVE
bCAPITAL LETTER T WITH DOT ABOVEbSMALL LETTER T WITH DOT ABOVEbCAPITAL LETTER T WITH DOT BELOW
bSMALL LETTER T WITH DOT BELOWbCAPITAL LETTER T WITH LINE BELOWbSMALL LETTER T WITH LINE BELOW
bCAPITAL LETTER T WITH CIRCUMFLEX BELOWbSMALL LETTER T WITH CIRCUMFLEX BELOW
bCAPITAL LETTER U WITH DIAERESIS BELOWbSMALL LETTER U WITH DIAERESIS BELOW
bCAPITAL LETTER U WITH TILDE BELOWbSMALL LETTER U WITH TILDE BELOW
bCAPITAL LETTER U WITH CIRCUMFLEX BELOWbSMALL LETTER U WITH CIRCUMFLEX BELOW
bCAPITAL LETTER U WITH TILDE AND ACUTEbSMALL LETTER U WITH TILDE AND ACUTE
bCAPITAL LETTER U WITH MACRON AND DIAERESISbSMALL LETTER U WITH MACRON AND DIAERESIS
bCAPITAL LETTER V WITH TILDEbSMALL LETTER V WITH TILDEbCAPITAL LETTER V WITH DOT BELOW
bSMALL LETTER V WITH DOT BELOWbCAPITAL LETTER W WITH GRAVEbSMALL LETTER W WITH GRAVE
bCAPITAL LETTER W WITH ACUTEbSMALL LETTER W WITH ACUTEbCAPITAL LETTER W WITH DIAERESIS
bSMALL LETTER W WITH DIAERESISbCAPITAL LETTER W WITH DOT ABOVEbSMALL LETTER W WITH DOT ABOVE
bCAPITAL LETTER W WITH DOT BELOWbSMALL LETTER W WITH DOT BELOWbCAPITAL LETTER X WITH DOT ABOVE
bSMALL LETTER X WITH DOT ABOVEbCAPITAL LETTER X WITH DIAERESISbSMALL LETTER X WITH DIAERESIS
bCAPITAL LETTER Y WITH DOT ABOVEbSMALL LETTER Y WITH DOT ABOVEbCAPITAL LETTER Z WITH CIRCUMFLEX
bSMALL LETTER Z WITH CIRCUMFLEXbCAPITAL LETTER Z WITH DOT BELOWbSMALL LETTER Z WITH DOT BELOW
bCAPITAL LETTER Z WITH LINE BELOWbSMALL LETTER Z WITH LINE BELOWdH WITH LINE BELOWdT WITH DIAERESIS
dW WITH RING ABOVEdY WITH RING ABOVEdA WITH RIGHT HALF RINGdLONG S WITH DOT ABOVEgDIAGONAL STROKE
gHIGH STROKEbCAPITAL LETTER SHARP SbSMALL LETTER DELTAbCAPITAL LETTER A WITH DOT BELOW
bSMALL LETTER A WITH DOT BELOWbCAPITAL LETTER A WITH HOOK ABOVEbSMALL LETTER A WITH HOOK ABOVE
bCAPITAL LETTER A WITH CIRCUMFLEX AND ACUTEbSMALL LETTER A WITH CIRCUMFLEX AND ACUTE
bCAPITAL LETTER A WITH CIRCUMFLEX AND GRAVEbSMALL LETTER A WITH CIRCUMFLEX AND GRAVE
bCAPITAL LETTER A WITH CIRCUMFLEX AND HOOK ABOVEbSMALL LETTER A WITH CIRCUMFLEX AND HOOK ABOVE
bCAPITAL LETTER A WITH CIRCUMFLEX AND TILDEbSMALL LETTER A WITH CIRCUMFLEX AND TILDE
bCAPITAL LETTER A WITH CIRCUMFLEX AND DOT BELOWbSMALL LETTER A WITH CIRCUMFLEX AND DOT BELOW
bCAPITAL LETTER A WITH BREVE AND ACUTEbSMALL LETTER A WITH BREVE AND ACUTE
bCAPITAL LETTER A WITH BREVE AND GRAVEbSMALL LETTER A WITH BREVE AND GRAVE
bCAPITAL LETTER A WITH BREVE AND HOOK ABOVEbSMALL LETTER A WITH BREVE AND HOOK ABOVE
bCAPITAL LETTER A WITH BREVE AND TILDEbSMALL LETTER A WITH BREVE AND TILDE
bCAPITAL LETTER A WITH BREVE AND DOT BELOWbSMALL LETTER A WITH BREVE AND DOT BELOW
bCAPITAL LETTER E WITH DOT BELOWbSMALL LETTER E WITH DOT BELOWbCAPITAL LETTER E WITH HOOK ABOVE
bSMALL LETTER E WITH HOOK ABOVEbCAPITAL LETTER E WITH TILDEbSMALL LETTER E WITH TILDE
bCAPITAL LETTER E WITH CIRCUMFLEX AND ACUTEbSMALL LETTER E WITH CIRCUMFLEX AND ACUTE
bCAPITAL LETTER E WITH CIRCUMFLEX AND GRAVEbSMALL LETTER E WITH CIRCUMFLEX AND GRAVE
bCAPITAL LETTER E WITH CIRCUMFLEX AND HOOK ABOVEbSMALL LETTER E WITH CIRCUMFLEX AND HOOK ABOVE
bCAPITAL LETTER E WITH CIRCUMFLEX AND TILDEbSMALL LETTER E WITH CIRCUMFLEX AND TILDE
bCAPITAL LETTER E WITH CIRCUMFLEX AND DOT BELOWbSMALL LETTER E WITH CIRCUMFLEX AND DOT BELOW
bCAPITAL LETTER I WITH HOOK ABOVEbSMALL LETTER I WITH HOOK ABOVEbCAPITAL LETTER I WITH DOT BELOW
bSMALL LETTER I WITH DOT BELOWbCAPITAL LETTER O WITH DOT BELOWbSMALL LETTER O WITH DOT BELOW
bCAPITAL LETTER O WITH HOOK ABOVEbSMALL LETTER O WITH HOOK ABOVE
bCAPITAL LETTER O WITH CIRCUMFLEX AND ACUTEbSMALL LETTER O WITH CIRCUMFLEX AND ACUTE
bCAPITAL LETTER O WITH CIRCUMFLEX AND GRAVEbSMALL LETTER O WITH CIRCUMFLEX AND GRAVE
bCAPITAL LETTER O WITH CIRCUMFLEX AND HOOK ABOVEbSMALL LETTER O WITH CIRCUMFLEX AND HOOK ABOVE
bCAPITAL LETTER O WITH CIRCUMFLEX AND TILDEbSMALL LETTER O WITH CIRCUMFLEX AND TILDE
bCAPITAL LETTER O WITH CIRCUMFLEX AND DOT BELOWbSMALL LETTER O WITH CIRCUMFLEX AND DOT BELOW
bCAPITAL LETTER O WITH HORN AND ACUTEbSMALL LETTER O WITH HORN AND ACUTE
bCAPITAL LETTER O WITH HORN AND GRAVEbSMALL LETTER O WITH HORN AND GRAVE
bCAPITAL LETTER O WITH HORN AND HOOK ABOVEbSMALL LETTER O WITH HORN AND HOOK ABOVE
bCAPITAL LETTER O WITH HORN AND TILDEbSMALL LETTER O WITH HORN AND TILDE
bCAPITAL LETTER O WITH HORN AND DOT BELOWbSMALL LETTER O WITH HORN AND DOT BELOW
bCAPITAL LETTER U WITH DOT BELOWbSMALL LETTER U WITH DOT BELOWbCAPITAL LETTER U WITH HOOK ABOVE
bSMALL LETTER U WITH HOOK ABOVEbCAPITAL LETTER U WITH HORN AND ACUTE
bSMALL LETTER U WITH HORN AND ACUTEbCAPITAL LETTER U WITH HORN AND GRAVE
bSMALL LETTER U WITH HORN AND GRAVEbCAPITAL LETTER U WITH HORN AND HOOK ABOVE
bSMALL LETTER U WITH HORN AND HOOK ABOVEbCAPITAL LETTER U WITH HORN AND TILDE
bSMALL LETTER U WITH HORN AND TILDEbCAPITAL LETTER U WITH HORN AND DOT BELOW
bSMALL LETTER U WITH HORN AND DOT BELOWbCAPITAL LETTER Y WITH GRAVEbSMALL LETTER Y WITH GRAVE
bCAPITAL LETTER Y WITH DOT BELOWbSMALL LETTER Y WITH DOT BELOWbCAPITAL LETTER Y WITH HOOK ABOVE
bSMALL LETTER Y WITH HOOK ABOVEbCAPITAL LETTER Y WITH TILDEbSMALL LETTER Y WITH TILDE
bCAPITAL LETTER MIDDLE-WELSH LLbSMALL LETTER MIDDLE-WELSH LLbCAPITAL LETTER MIDDLE-WELSH V
bSMALL LETTER MIDDLE-WELSH VbCAPITAL LETTER Y WITH LOOPbSMALL LETTER Y WITH LOOP
aGREEK SMALL LETTER ALPHA WITH PSILIfDASIAfPSILI AND VARIAfDASIA AND VARIAfPSILI AND OXIA
fDASIA AND OXIAfPSILI AND PERISPOMENIfDASIA AND PERISPOMENIbCAPITAL LETTER ALPHA WITH PSILIfDASIA
fPSILI AND VARIAfDASIA AND VARIAfPSILI AND OXIAfDASIA AND OXIAfPSILI AND PERISPOMENI
fDASIA AND PERISPOMENIbSMALL LETTER EPSILON WITH PSILIfDASIAfPSILI AND VARIAfDASIA AND VARIA
fPSILI AND OXIAfDASIA AND OXIAx2bCAPITAL LETTER EPSILON WITH PSILIfDASIAfPSILI AND VARIA
fDASIA AND VARIAfPSILI AND OXIAfDASIA AND OXIAx2bSMALL LETTER ETA WITH PSILIfDASIAfPSILI AND VARIA
fDASIA AND VARIAfPSILI AND OXIAfDASIA AND OXIAfPSILI AND PERISPOMENIfDASIA AND PERISPOMENI
bCAPITAL LETTER ETA WITH PSILIfDASIAfPSILI AND VARIAfDASIA AND VARIAfPSILI AND OXIAfDASIA AND OXIA
fPSILI AND PERISPOMENIfDASIA AND PERISPOMENIbSMALL LETTER IOTA WITH PSILIfDASIAfPSILI AND VARIA
fDASIA AND VARIAfPSILI AND OXIAfDASIA AND OXIAfPSILI AND PERISPOMENIfDASIA AND PERISPOMENI
bCAPITAL LETTER IOTA WITH PSILIfDASIAfPSILI AND VARIAfDASIA AND VARIAfPSILI AND OXIAfDASIA AND OXIA
fPSILI AND PERISPOMENIfDASIA AND PERISPOMENIbSMALL LETTER OMICRON WITH PSILIfDASIAfPSILI AND VARIA
fDASIA AND VARIAfPSILI AND OXIAfDASIA AND OXIAx2bCAPITAL LETTER OMICRON WITH PSILIfDASIA
fPSILI AND VARIAfDASIA AND VARIAfPSILI AND OXIAfDASIA AND OXIAx2bSMALL LETTER UPSILON WITH PSILI
fDASIAfPSILI AND VARIAfDASIA AND VARIAfPSILI AND OXIAfDASIA AND OXIAfPSILI AND PERISPOMENI
fDASIA AND PERISPOMENIx1bCAPITAL LETTER UPSILON WITH DASIAx1gAND VARIAx1hOXIAx1hPERISPOMENI
bSMALL LETTER OMEGA WITH PSILIfDASIAfPSILI AND VARIAfDASIA AND VARIAfPSILI AND OXIAfDASIA AND OXIA
fPSILI AND PERISPOMENIfDASIA AND PERISPOMENIbCAPITAL LETTER OMEGA WITH PSILIfDASIAfPSILI AND VARIA
fDASIA AND VARIAfPSILI AND OXIAfDASIA AND OXIAfPSILI AND PERISPOMENIfDASIA AND PERISPOMENI
bSMALL LETTER ALPHA WITH VARIAfOXIAdEPSILON WITH VARIAfOXIAdETA WITH VARIAfOXIAdIOTA WITH VARIA
fOXIAdOMICRON WITH VARIAfOXIAdUPSILON WITH VARIAfOXIAdOMEGA WITH VARIAfOXIAx2
dALPHA WITH PSILI AND YPOGEGRAMMENIfDASIA AND YPOGEGRAMMENIfPSILI AND VARIA AND YPOGEGRAMMENI
fDASIA AND VARIA AND YPOGEGRAMMENIfPSILI AND OXIA AND YPOGEGRAMMENI
fDASIA AND OXIA AND YPOGEGRAMMENIfPSILI AND PERISPOMENI AND YPOGEGRAMMENI
fDASIA AND PERISPOMENI AND YPOGEGRAMMENIbCAPITAL LETTER ALPHA WITH PSILI AND PROSGEGRAMMENI
fDASIA AND PROSGEGRAMMENIfPSILI AND VARIA AND PROSGEGRAMMENIfDASIA AND VARIA AND PROSGEGRAMMENI
fPSILI AND OXIA AND PROSGEGRAMMENIfDASIA AND OXIA AND PROSGEGRAMMENI
fPSILI AND PERISPOMENI AND PROSGEGRAMMENIfDASIA AND PERISPOMENI AND PROSGEGRAMMENI
bSMALL LETTER ETA WITH PSILI AND YPOGEGRAMMENIfDASIA AND YPOGEGRAMMENI
fPSILI AND VARIA AND YPOGEGRAMMENIfDASIA AND VARIA AND YPOGEGRAMMENI
fPSILI AND OXIA AND YPOGEGRAMMENIfDASIA AND OXIA AND YPOGEGRAMMENI
fPSILI AND PERISPOMENI AND YPOGEGRAMMENIfDASIA AND PERISPOMENI AND YPOGEGRAMMENI
bCAPITAL LETTER ETA WITH PSILI AND PROSGEGRAMMENIfDASIA AND PROSGEGRAMMENI
fPSILI AND VARIA AND PROSGEGRAMMENIfDASIA AND VARIA AND PROSGEGRAMMENI
fPSILI AND OXIA AND PROSGEGRAMMENIfDASIA AND OXIA AND PROSGEGRAMMENI
fPSILI AND PERISPOMENI AND PROSGEGRAMMENIfDASIA AND PERISPOMENI AND PROSGEGRAMMENI
bSMALL LETTER OMEGA WITH PSILI AND YPOGEGRAMMENIfDASIA AND YPOGEGRAMMENI
fPSILI AND VARIA AND YPOGEGRAMMENIfDASIA AND VARIA AND YPOGEGRAMMENI
fPSILI AND OXIA AND YPOGEGRAMMENIfDASIA AND OXIA AND YPOGEGRAMMENI
fPSILI AND PERISPOMENI AND YPOGEGRAMMENIfDASIA AND PERISPOMENI AND YPOGEGRAMMENI
bCAPITAL LETTER OMEGA WITH PSILI AND PROSGEGRAMMENIfDASIA AND PROSGEGRAMMENI
fPSILI AND VARIA AND PROSGEGRAMMENIfDASIA AND VARIA AND PROSGEGRAMMENI
fPSILI AND OXIA AND PROSGEGRAMMENIfDASIA AND OXIA AND PROSGEGRAMMENI
fPSILI AND PERISPOMENI AND PROSGEGRAMMENIfDASIA AND PERISPOMENI AND PROSGEGRAMMENI
bSMALL LETTER ALPHA WITH VRACHYfMACRONfVARIA AND YPOGEGRAMMENIfYPOGEGRAMMENIfOXIA AND YPOGEGRAMMENI
x1fPERISPOMENIgAND YPOGEGRAMMENIbCAPITAL LETTER ALPHA WITH VRACHYfMACRONfVARIAfOXIAfPROSGEGRAMMENI
bKORONISbPROSGEGRAMMENIbPSILIbPERISPOMENIbDIALYTIKA AND PERISPOMENI
bSMALL LETTER ETA WITH VARIA AND YPOGEGRAMMENIfYPOGEGRAMMENIfOXIA AND YPOGEGRAMMENIx1fPERISPOMENI
gAND YPOGEGRAMMENIbCAPITAL LETTER EPSILON WITH VARIAfOXIAdETA WITH VARIAfOXIAfPROSGEGRAMMENI
bPSILI AND VARIAdOXIAdPERISPOMENIbSMALL LETTER IOTA WITH VRACHYfMACRONfDIALYTIKA AND VARIAhOXIAx2
fPERISPOMENIfDIALYTIKA AND PERISPOMENIbCAPITAL LETTER IOTA WITH VRACHYfMACRONfVARIAfOXIAx1
bDASIA AND VARIAdOXIAdPERISPOMENIbSMALL LETTER UPSILON WITH VRACHYfMACRONfDIALYTIKA AND VARIAhOXIA
dRHO WITH PSILIfDASIAdUPSILON WITH PERISPOMENIfDIALYTIKA AND PERISPOMENI
bCAPITAL LETTER UPSILON WITH VRACHYfMACRONfVARIAfOXIAdRHO WITH DASIAbDIALYTIKA AND VARIAdOXIAbVARIA
x2bSMALL LETTER OMEGA WITH VARIA AND YPOGEGRAMMENIfYPOGEGRAMMENIfOXIA AND YPOGEGRAMMENIx1
fPERISPOMENIgAND YPOGEGRAMMENIbCAPITAL LETTER OMICRON WITH VARIAfOXIAdOMEGA WITH VARIAfOXIA
fPROSGEGRAMMENIbOXIAbDASIA"

end DocAudit.Text.Names
