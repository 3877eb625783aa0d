/-! Names of the characters below the general symbols, in the compressed form that
`CharacterName` reads.
-/

namespace LiteralEnum.Text.CharacterName

def alphabeticNames : List String :=
  [",20,aSPACEaEXCLAMATION MARKaQUOTATION MARKaNUMBER SIGNaDOLLAR SIGNaPERCENT SIGNaAMPERSANDbPOST",
   "ROPHEaLEFT PARENTHESISaRIGHT PARENTHESISaASTERISKaPLUS SIGNaCOMMAaHYPHEN-MINUSaFULL STOPaSOLID",
   "USaDIGIT ZEROgONEgTWOhHREEgFOURhIVEgSIXhEVENgEIGHTgNINEaCOLONaSEMICOLONaLESS-THAN SIGNaEQUALS ",
   "SIGNaGREATER-THAN SIGNaQUESTION MARKaCOMMERCIAL ATaLATIN CAPITAL LETTER AvBvCvDvEvFvGvHvIvJvKv",
   "LvMvNvOvPvQvRvSvTvUvVvWvXvYvZbEFT SQUARE BRACKETaREVERSE SOLIDUSbIGHT SQUARE BRACKETaCIRCUMFLE",
   "X ACCENTaLOW LINEaGRAVE ACCENTaLATIN SMALL LETTER AtBtCtDtEtFtGtHtItJtKtLtMtNtOtPtQtRtStTtUtVt",
   "WtXtYtZbEFT CURLY BRACKETaVERTICAL LINEaRIGHT CURLY BRACKETaTILDE,A0,aNO-BREAK SPACEaINVERTED ",
   "EXCLAMATION MARKaCENT SIGNaPOUND SIGNaCURRENCY SIGNaYEN SIGNaBROKEN BARaSECTION SIGNaDIAERESIS",
   "aCOPYRIGHT SIGNaFEMININE ORDINAL INDICATORaLEFT-POINTING DOUBLE ANGLE QUOTATION MARKaNOT SIGNa",
   "SOFT HYPHENaREGISTERED SIGNaMACRONaDEGREE SIGNaPLUS-MINUS SIGNaSUPERSCRIPT TWOnHREEaACUTE ACCE",
   "NTaMICRO SIGNaPILCROW SIGNaMIDDLE DOTaCEDILLAaSUPERSCRIPT ONEaMASCULINE ORDINAL INDICATORaRIGH",
   "T-POINTING DOUBLE ANGLE QUOTATION MARKaVULGAR FRACTION ONE QUARTERuHALFqTHREE QUARTERSaINVERTE",
   "D QUESTION MARKaLATIN CAPITAL LETTER A WITH GRAVE$ACUTE$CIRCUMFLEX$TILDE$DIAERESIS$RING ABOVEw",
   "EvC WITH CEDILLAvE WITH GRAVE$ACUTE$CIRCUMFLEX$DIAERESISvI WITH GRAVE$ACUTE$CIRCUMFLEX$DIAERES",
   "ISvETHvN WITH TILDEvO WITH GRAVE$ACUTE$CIRCUMFLEX$TILDE$DIAERESISaMULTIPLICATION SIGNaLATIN CA",
   "PITAL LETTER O WITH STROKEvU WITH GRAVE$ACUTE$CIRCUMFLEX$DIAERESISvY WITH ACUTEvTHORNgSMALL LE",
   "TTER SHARP StA WITH GRAVE!ACUTE!CIRCUMFLEX!TILDE!DIAERESIS!RING ABOVEuEtC WITH CEDILLAtE WITH ",
   "GRAVE!ACUTE!CIRCUMFLEX!DIAERESIStI WITH GRAVE!ACUTE!CIRCUMFLEX!DIAERESIStETHtN WITH TILDEtO WI",
   "TH GRAVE!ACUTE!CIRCUMFLEX!TILDE!DIAERESISaDIVISION SIGNaLATIN SMALL LETTER O WITH STROKEtU WIT",
   "H GRAVE!ACUTE!CIRCUMFLEX!DIAERESIStY WITH ACUTEtTHORNtY WITH DIAERESISgCAPITAL LETTER A WITH M",
   "ACRONgSMALL LETTER A WITH MACRONgCAPITAL LETTER A WITH BREVEgSMALL LETTER A WITH BREVEgCAPITAL",
   " LETTER A WITH OGONEKgSMALL LETTER A WITH OGONEKgCAPITAL LETTER C WITH ACUTEgSMALL LETTER C WI",
   "TH ACUTEgCAPITAL LETTER C WITH CIRCUMFLEXgSMALL LETTER C WITH CIRCUMFLEXgCAPITAL LETTER C WITH",
   " DOT ABOVEgSMALL LETTER C WITH DOT ABOVEgCAPITAL LETTER C WITH CARONgSMALL LETTER C WITH CARON",
   "gCAPITAL LETTER D WITH CARONgSMALL LETTER D WITH CARONgCAPITAL LETTER D WITH STROKEgSMALL LETT",
   "ER D WITH STROKEgCAPITAL LETTER E WITH MACRONgSMALL LETTER E WITH MACRONgCAPITAL LETTER E WITH",
   " BREVEgSMALL LETTER E WITH BREVEgCAPITAL LETTER E WITH DOT ABOVEgSMALL LETTER E WITH DOT ABOVE",
   "gCAPITAL LETTER E WITH OGONEKgSMALL LETTER E WITH OGONEKgCAPITAL LETTER E WITH CARONgSMALL LET",
   "TER E WITH CARONgCAPITAL LETTER G WITH CIRCUMFLEXgSMALL LETTER G WITH CIRCUMFLEXgCAPITAL LETTE",
   "R G WITH BREVEgSMALL LETTER G WITH BREVEgCAPITAL LETTER G WITH DOT ABOVEgSMALL LETTER G WITH D",
   "OT ABOVEgCAPITAL LETTER G WITH CEDILLAgSMALL LETTER G WITH CEDILLAgCAPITAL LETTER H WITH CIRCU",
   "MFLEXgSMALL LETTER H WITH CIRCUMFLEXgCAPITAL LETTER H WITH STROKEgSMALL LETTER H WITH STROKEgC",
   "APITAL LETTER I WITH TILDEgSMALL LETTER I WITH TILDEgCAPITAL LETTER I WITH MACRONgSMALL LETTER",
   " I WITH MACRONgCAPITAL LETTER I WITH BREVEgSMALL LETTER I WITH BREVEgCAPITAL LETTER I WITH OGO",
   "NEKgSMALL LETTER I WITH OGONEKgCAPITAL LETTER I WITH DOT ABOVEgSMALL LETTER DOTLESS IgCAPITAL ",
   "LIGATURE IJgSMALL LIGATURE IJgCAPITAL LETTER J WITH CIRCUMFLEXgSMALL LETTER J WITH CIRCUMFLEXg",
   "CAPITAL LETTER K WITH CEDILLAgSMALL LETTER K WITH CEDILLAuRAgCAPITAL LETTER L WITH ACUTEgSMALL",
   " LETTER L WITH ACUTEgCAPITAL LETTER L WITH CEDILLAgSMALL LETTER L WITH CEDILLAgCAPITAL LETTER ",
   "L WITH CARONgSMALL LETTER L WITH CARONgCAPITAL LETTER L WITH MIDDLE DOTgSMALL LETTER L WITH MI",
   "DDLE DOTgCAPITAL LETTER L WITH STROKEgSMALL LETTER L WITH STROKEgCAPITAL LETTER N WITH ACUTEgS",
   "MALL LETTER N WITH ACUTEgCAPITAL LETTER N WITH CEDILLAgSMALL LETTER N WITH CEDILLAgCAPITAL LET",
   "TER N WITH CARONgSMALL LETTER N WITH CARONvPRECEDED BY APOSTROPHEgCAPITAL LETTER ENGgSMALL LET",
   "TER ENGgCAPITAL LETTER O WITH MACRONgSMALL LETTER O WITH MACRONgCAPITAL LETTER O WITH BREVEgSM",
   "ALL LETTER O WITH BREVEgCAPITAL LETTER O WITH DOUBLE ACUTEgSMALL LETTER O WITH DOUBLE ACUTEgCA",
   "PITAL LIGATURE OEgSMALL LIGATURE OEgCAPITAL LETTER R WITH ACUTEgSMALL LETTER R WITH ACUTEgCAPI",
   "TAL LETTER R WITH CEDILLAgSMALL LETTER R WITH CEDILLAgCAPITAL LETTER R WITH CARONgSMALL LETTER",
   " R WITH CARONgCAPITAL LETTER S WITH ACUTEgSMALL LETTER S WITH ACUTEgCAPITAL LETTER S WITH CIRC",
   "UMFLEXgSMALL LETTER S WITH CIRCUMFLEXgCAPITAL LETTER S WITH CEDILLAgSMALL LETTER S WITH CEDILL",
   "AgCAPITAL LETTER S WITH CARONgSMALL LETTER S WITH CARONgCAPITAL LETTER T WITH CEDILLAgSMALL LE",
   "TTER T WITH CEDILLAgCAPITAL LETTER T WITH CARONgSMALL LETTER T WITH CARONgCAPITAL LETTER T WIT",
   "H STROKEgSMALL LETTER T WITH STROKEgCAPITAL LETTER U WITH TILDEgSMALL LETTER U WITH TILDEgCAPI",
   "TAL LETTER U WITH MACRONgSMALL LETTER U WITH MACRONgCAPITAL LETTER U WITH BREVEgSMALL LETTER U",
   " WITH BREVEgCAPITAL LETTER U WITH RING ABOVEgSMALL LETTER U WITH RING ABOVEgCAPITAL LETTER U W",
   "ITH DOUBLE ACUTEgSMALL LETTER U WITH DOUBLE ACUTEgCAPITAL LETTER U WITH OGONEKgSMALL LETTER U ",
   "WITH OGONEKgCAPITAL LETTER W WITH CIRCUMFLEXgSMALL LETTER W WITH CIRCUMFLEXgCAPITAL LETTER Y W",
   "ITH CIRCUMFLEXgSMALL LETTER Y WITH CIRCUMFLEXgCAPITAL LETTER Y WITH DIAERESISvZ WITH ACUTEgSMA",
   "LL LETTER Z WITH ACUTEgCAPITAL LETTER Z WITH DOT ABOVEgSMALL LETTER Z WITH DOT ABOVEgCAPITAL L",
   "ETTER Z WITH CARONgSMALL LETTER Z WITH CARONtLONG StB WITH STROKEgCAPITAL LETTER B WITH HOOK$T",
   "OPBARgSMALL LETTER B WITH TOPBARgCAPITAL LETTER TONE SIXgSMALL LETTER TONE SIXgCAPITAL LETTER ",
   "OPEN OvC WITH HOOKgSMALL LETTER C WITH HOOKgCAPITAL LETTER AFRICAN DvD WITH HOOK$TOPBARgSMALL ",
   "LETTER D WITH TOPBARtTURNED DELTAgCAPITAL LETTER REVERSED EvSCHWAvOPEN EvF WITH HOOKgSMALL LET",
   "TER F WITH HOOKgCAPITAL LETTER G WITH HOOKwAMMAgSMALL LETTER HVgCAPITAL LETTER IOTAw WITH STRO",
   "KEvK WITH HOOKgSMALL LETTER K WITH HOOKtL WITH BARuAMBDA WITH STROKEgCAPITAL LETTER TURNED MvN",
   " WITH LEFT HOOKgSMALL LETTER N WITH LONG RIGHT LEGgCAPITAL LETTER O WITH MIDDLE TILDE$HORNgSMA",
   "LL LETTER O WITH HORNgCAPITAL LETTER OIgSMALL LETTER OIgCAPITAL LETTER P WITH HOOKgSMALL LETTE",
   "R P WITH HOOKgLETTER YRgCAPITAL LETTER TONE TWOgSMALL LETTER TONE TWOgCAPITAL LETTER ESHgLETTE",
   "R REVERSED ESH LOOPgSMALL LETTER T WITH PALATAL HOOKgCAPITAL LETTER T WITH HOOKgSMALL LETTER T",
   " WITH HOOKgCAPITAL LETTER T WITH RETROFLEX HOOKvU WITH HORNgSMALL LETTER U WITH HORNgCAPITAL L",
   "ETTER UPSILONvV WITH HOOKvY WITH HOOKgSMALL LETTER Y WITH HOOKgCAPITAL LETTER Z WITH STROKEgSM",
   "ALL LETTER Z WITH STROKEgCAPITAL LETTER EZHy REVERSEDgSMALL LETTER EZH REVERSEDxWITH TAILgLETT",
   "ER TWO WITH STROKEgCAPITAL LETTER TONE FIVEgSMALL LETTER TONE FIVEgLETTER INVERTED GLOTTAL STO",
   "P WITH STROKEnWYNNnDENTAL CLICKnLATERAL CLICKnALVEOLAR CLICKnRETROFLEX CLICKgCAPITAL LETTER DZ",
   " WITH CARONw WITH SMALL LETTER Z WITH CARONgSMALL LETTER DZ WITH CARONgCAPITAL LETTER LJw WITH",
   " SMALL LETTER JgSMALL LETTER LJgCAPITAL LETTER NJw WITH SMALL LETTER JgSMALL LETTER NJgCAPITAL",
   " LETTER A WITH CARONgSMALL LETTER A WITH CARONgCAPITAL LETTER I WITH CARONgSMALL LETTER I WITH",
   " CARONgCAPITAL LETTER O WITH CARONgSMALL LETTER O WITH CARONgCAPITAL LETTER U WITH CARONgSMALL",
   " LETTER U WITH CARONgCAPITAL LETTER U WITH DIAERESIS AND MACRONgSMALL LETTER U WITH DIAERESIS ",
   "AND MACRONgCAPITAL LETTER U WITH DIAERESIS AND ACUTEgSMALL LETTER U WITH DIAERESIS AND ACUTEgC",
   "APITAL LETTER U WITH DIAERESIS AND CARONgSMALL LETTER U WITH DIAERESIS AND CARONgCAPITAL LETTE",
   "R U WITH DIAERESIS AND GRAVEgSMALL LETTER U WITH DIAERESIS AND GRAVEtTURNED EgCAPITAL LETTER A",
   " WITH DIAERESIS AND MACRONgSMALL LETTER A WITH DIAERESIS AND MACRONgCAPITAL LETTER A WITH DOT ",
   "ABOVE AND MACRONgSMALL LETTER A WITH DOT ABOVE AND MACRONgCAPITAL LETTER AE WITH MACRONgSMALL ",
   "LETTER AE WITH MACRONgCAPITAL LETTER G WITH STROKEgSMALL LETTER G WITH STROKEgCAPITAL LETTER G",
   " WITH CARONgSMALL LETTER G WITH CARONgCAPITAL LETTER K WITH CARONgSMALL LETTER K WITH CARONgCA",
   "PITAL LETTER O WITH OGONEKgSMALL LETTER O WITH OGONEKgCAPITAL LETTER O WITH OGONEK AND MACRONg",
   "SMALL LETTER O WITH OGONEK AND MACRONgCAPITAL LETTER EZH WITH CARONgSMALL LETTER EZH WITH CARO",
   "NtJ WITH CARONgCAPITAL LETTER DZw WITH SMALL LETTER ZgSMALL LETTER DZgCAPITAL LETTER G WITH AC",
   "UTEgSMALL LETTER G WITH ACUTEgCAPITAL LETTER HWAIRvWYNNvN WITH GRAVEgSMALL LETTER N WITH GRAVE",
   "gCAPITAL LETTER A WITH RING ABOVE AND ACUTEgSMALL LETTER A WITH RING ABOVE AND ACUTEgCAPITAL L",
   "ETTER AE WITH ACUTEgSMALL LETTER AE WITH ACUTEgCAPITAL LETTER O WITH STROKE AND ACUTEgSMALL LE",
   "TTER O WITH STROKE AND ACUTEgCAPITAL LETTER A WITH DOUBLE GRAVEgSMALL LETTER A WITH DOUBLE GRA",
   "VEgCAPITAL LETTER A WITH INVERTED BREVEgSMALL LETTER A WITH INVERTED BREVEgCAPITAL LETTER E WI",
   "TH DOUBLE GRAVEgSMALL LETTER E WITH DOUBLE GRAVEgCAPITAL LETTER E WITH INVERTED BREVEgSMALL LE",
   "TTER E WITH INVERTED BREVEgCAPITAL LETTER I WITH DOUBLE GRAVEgSMALL LETTER I WITH DOUBLE GRAVE",
   "gCAPITAL LETTER I WITH INVERTED BREVEgSMALL LETTER I WITH INVERTED BREVEgCAPITAL LETTER O WITH",
   " DOUBLE GRAVEgSMALL LETTER O WITH DOUBLE GRAVEgCAPITAL LETTER O WITH INVERTED BREVEgSMALL LETT",
   "ER O WITH INVERTED BREVEgCAPITAL LETTER R WITH DOUBLE GRAVEgSMALL LETTER R WITH DOUBLE GRAVEgC",
   "APITAL LETTER R WITH INVERTED BREVEgSMALL LETTER R WITH INVERTED BREVEgCAPITAL LETTER U WITH D",
   "OUBLE GRAVEgSMALL LETTER U WITH DOUBLE GRAVEgCAPITAL LETTER U WITH INVERTED BREVEgSMALL LETTER",
   " U WITH INVERTED BREVEgCAPITAL LETTER S WITH COMMA BELOWgSMALL LETTER S WITH COMMA BELOWgCAPIT",
   "AL LETTER T WITH COMMA BELOWgSMALL LETTER T WITH COMMA BELOWgCAPITAL LETTER YOGHgSMALL LETTER ",
   "YOGHgCAPITAL LETTER H WITH CARONgSMALL LETTER H WITH CARONgCAPITAL LETTER N WITH LONG RIGHT LE",
   "GgSMALL LETTER D WITH CURLgCAPITAL LETTER OUgSMALL LETTER OUgCAPITAL LETTER Z WITH HOOKgSMALL ",
   "LETTER Z WITH HOOKgCAPITAL LETTER A WITH DOT ABOVEgSMALL LETTER A WITH DOT ABOVEgCAPITAL LETTE",
   "R E WITH CEDILLAgSMALL LETTER E WITH CEDILLAgCAPITAL LETTER O WITH DIAERESIS AND MACRONgSMALL ",
   "LETTER O WITH DIAERESIS AND MACRONgCAPITAL LETTER O WITH TILDE AND MACRONgSMALL LETTER O WITH ",
   "TILDE AND MACRONgCAPITAL LETTER O WITH DOT ABOVEgSMALL LETTER O WITH DOT ABOVEgCAPITAL LETTER ",
   "O WITH DOT ABOVE AND MACRONgSMALL LETTER O WITH DOT ABOVE AND MACRONgCAPITAL LETTER Y WITH MAC",
   "RONgSMALL LETTER Y WITH MACRONtL WITH CURLtN WITH CURLtT WITH CURLtDOTLESS JuB DIGRAPHtQP DIGR",
   "APHgCAPITAL LETTER A WITH STROKEvC WITH STROKEgSMALL LETTER C WITH STROKEgCAPITAL LETTER L WIT",
   "H BARvT WITH DIAGONAL STROKEgSMALL LETTER S WITH SWASH TAILtZ WITH SWASH TAILgCAPITAL LETTER G",
   "LOTTAL STOPgSMALL LETTER GLOTTAL STOPgCAPITAL LETTER B WITH STROKEvU BARvTURNED VvE WITH STROK",
   "EgSMALL LETTER E WITH STROKEgCAPITAL LETTER J WITH STROKEgSMALL LETTER J WITH STROKEgCAPITAL L",
   "ETTER SMALL Q WITH HOOK TAILgSMALL LETTER Q WITH HOOK TAILgCAPITAL LETTER R WITH STROKEgSMALL ",
   "LETTER R WITH STROKEgCAPITAL LETTER Y WITH STROKEgSMALL LETTER Y WITH STROKEtTURNED AtALPHAtTU",
   "RNED ALPHAtB WITH HOOKtOPEN OtC WITH CURLtD WITH TAIL!HOOKtREVERSED EtSCHWAy WITH HOOKtOPEN Et",
   "REVERSED OPEN E+ WITH HOOKtCLOSED REVERSED OPEN EtDOTLESS J WITH STROKEtG WITH HOOKtSCRIPT GgL",
   "ETTER SMALL CAPITAL GgSMALL LETTER GAMMAtRAMS HORNtTURNED HtH WITH HOOKuENG WITH HOOKtI WITH S",
   "TROKEuOTAgLETTER SMALL CAPITAL IgSMALL LETTER L WITH MIDDLE TILDE!BELT!RETROFLEX HOOKuEZHtTURN",
   "ED M# WITH LONG LEGtM WITH HOOKtN WITH LEFT HOOK!RETROFLEX HOOKgLETTER SMALL CAPITAL NgSMALL L",
   "ETTER BARRED OgLETTER SMALL CAPITAL OEgSMALL LETTER CLOSED OMEGAtPHItTURNED R# WITH LONG LEG*H",
   "OOKtR WITH LONG LEG!TAIL!FISHHOOKuEVERSED R WITH FISHHOOKgLETTER SMALL CAPITAL R#INVERTED RgSM",
   "ALL LETTER S WITH HOOKtESHtDOTLESS J WITH STROKE AND HOOKtSQUAT REVERSED ESHtESH WITH CURLtTUR",
   "NED Tu WITH RETROFLEX HOOKtU BARuPSILONtV WITH HOOKtTURNED V!W!YgLETTER SMALL CAPITAL YgSMALL ",
   "LETTER Z WITH RETROFLEX HOOK!CURLtEZHw WITH CURLgLETTER GLOTTAL STOPnPHARYNGEAL VOICED FRICATI",
   "VEnINVERTED GLOTTAL STOPnSTRETCHED CnBILABIAL CLICKnSMALL CAPITAL BgSMALL LETTER CLOSED OPEN E",
   "gLETTER SMALL CAPITAL G WITH HOOK#HgSMALL LETTER J WITH CROSSED-TAILtTURNED KgLETTER SMALL CAP",
   "ITAL LgSMALL LETTER Q WITH HOOKgLETTER GLOTTAL STOP WITH STROKEnREVERSED GLOTTAL STOP WITH STR",
   "OKEgSMALL LETTER DZ DIGRAPHuEZH DIGRAPHuZ DIGRAPH WITH CURLtTS DIGRAPHuESH DIGRAPHuC DIGRAPH W",
   "ITH CURLtFENG DIGRAPHtLS DIGRAPHuZ DIGRAPHgLETTER BILABIAL PERCUSSIVEpDENTAL PERCUSSIVEgSMALL ",
   "LETTER TURNED H WITH FISHHOOK> AND TAILaMODIFIER LETTER SMALL Hx WITH HOOKwJwRwTURNED R& WITH ",
   "HOOKwCAPITAL INVERTED RwWwYqPRIMEqDOUBLE PRIMEqTURNED COMMAqAPOSTROPHEqREVERSED COMMArIGHT HAL",
   "F RINGqLEFT HALF RINGqGLOTTAL STOPqREVERSED GLOTTAL STOPqLEFT ARROWHEADqRIGHT ARROWHEADqUP ARR",
   "OWHEADqDOWN ARROWHEADqCIRCUMFLEX ACCENTaCARONaMODIFIER LETTER VERTICAL LINEqMACRONqACUTE ACCEN",
   "TqGRAVE ACCENTqLOW VERTICAL LINEuMACRONuGRAVE ACCENTuACUTE ACCENTqTRIANGULAR COLONqHALF TRIANG",
   "ULAR COLONqCENTRED RIGHT HALF RINGyLEFT HALF RINGqUP TACKqDOWN TACKqPLUS SIGNqMINUS SIGNaBREVE",
   "aDOT ABOVEaRING ABOVEaOGONEKaSMALL TILDEaDOUBLE ACUTE ACCENTaMODIFIER LETTER RHOTIC HOOKqCROSS",
   " ACCENTqSMALL GAMMAwLwSwXwREVERSED GLOTTAL STOPqEXTRA-HIGH TONE BARqHIGH TONE BARqMID TONE BAR",
   "qLOW TONE BARqEXTRA-LOW TONE BARqYIN DEPARTING TONE MARKrANG DEPARTING TONE MARKqVOICINGqUNASP",
   "IRATEDqDOUBLE APOSTROPHEqLOW DOWN ARROWHEADuUP ARROWHEADuLEFT ARROWHEADuRIGHT ARROWHEADwNGqMID",
   "DLE GRAVE ACCENTxDOUBLE GRAVE ACCENT&ACUTE ACCENTqLOW TILDEqRAISED COLONqBEGIN HIGH TONEqEND H",
   "IGH TONEqBEGIN LOW TONEqEND LOW TONEqSHELFqOPEN SHELFqLOW LEFT ARROWaCOMBINING GRAVE ACCENTkAC",
   "UTE ACCENTkCIRCUMFLEX ACCENTkTILDEkMACRONkOVERLINEkBREVEkDOT ABOVElIAERESISkHOOK ABOVEkRING AB",
   "OVEkDOUBLE ACUTE ACCENTkCARONkVERTICAL LINE ABOVEkDOUBLE VERTICAL LINE ABOVErGRAVE ACCENTkCAND",
   "RABINDUkINVERTED BREVEkTURNED COMMA ABOVEkCOMMA ABOVEkREVERSED COMMA ABOVEkCOMMA ABOVE RIGHTkG",
   "RAVE ACCENT BELOWkACUTE ACCENT BELOWkLEFT TACK BELOWkRIGHT TACK BELOWkLEFT ANGLE ABOVEkHORNkLE",
   "FT HALF RING BELOWkUP TACK BELOWkDOWN TACK BELOWkPLUS SIGN BELOWkMINUS SIGN BELOWkPALATALIZED ",
   "HOOK BELOWkRETROFLEX HOOK BELOWkDOT BELOWlIAERESIS BELOWkRING BELOWkCOMMA BELOWlEDILLAkOGONEKk",
   "VERTICAL LINE BELOWkBRIDGE BELOWkINVERTED DOUBLE ARCH BELOWkCARON BELOWlIRCUMFLEX ACCENT BELOW",
   "kBREVE BELOWkINVERTED BREVE BELOWkTILDE BELOWkMACRON BELOWkLOW LINEkDOUBLE LOW LINEkTILDE OVER",
   "LAYkSHORT STROKE OVERLAYkLONG STROKE OVERLAYkSHORT SOLIDUS OVERLAYkLONG SOLIDUS OVERLAYkRIGHT ",
   "HALF RING BELOWkINVERTED BRIDGE BELOWkSQUARE BELOWlEAGULL BELOWkX ABOVEkVERTICAL TILDEkDOUBLE ",
   "OVERLINEkGRAVE TONE MARKkACUTE TONE MARKkGREEK PERISPOMENIqKORONISqDIALYTIKA TONOSqYPOGEGRAMME",
   "NIkBRIDGE ABOVEkEQUALS SIGN BELOWkDOUBLE VERTICAL LINE BELOWkLEFT ANGLE BELOWkNOT TILDE ABOVEk",
   "HOMOTHETIC ABOVEkALMOST EQUAL TO ABOVEkLEFT RIGHT ARROW BELOWkUPWARDS ARROW BELOWkGRAPHEME JOI",
   "NERkRIGHT ARROWHEAD ABOVEkLEFT HALF RING ABOVEkFERMATAkX BELOWkLEFT ARROWHEAD BELOWkRIGHT ARRO",
   "WHEAD BELOW!AND UP ARROWHEAD BELOWqHALF RING ABOVEkDOT ABOVE RIGHTkASTERISK BELOWkDOUBLE RING ",
   "BELOWkZIGZAG ABOVEkDOUBLE BREVE BELOWwrMACRONx BELOWrTILDErINVERTED BREVErRIGHTWARDS ARROW BEL",
   "OWkLATIN SMALL LETTER A%E%I%O%U%C%D%H%M%R%T%V%XaGREEK CAPITAL LETTER HETAgSMALL LETTER HETAgCA",
   "PITAL LETTER ARCHAIC SAMPIgSMALL LETTER ARCHAIC SAMPIgNUMERAL SIGNgLOWER NUMERAL SIGNgCAPITAL ",
   "LETTER PAMPHYLIAN DIGAMMAgSMALL LETTER PAMPHYLIAN DIGAMMA,37A,aGREEK YPOGEGRAMMENIgSMALL REVER",
   "SED LUNATE SIGMA SYMBOLmDOTTED LUNATE SIGMA SYMBOLmREVERSED DOTTED LUNATE SIGMA SYMBOLgQUESTIO",
   "N MARKgCAPITAL LETTER YOT,384,aGREEK TONOSgDIALYTIKA TONOSgCAPITAL LETTER ALPHA WITH TONOSgANO",
   " TELEIAgCAPITAL LETTER EPSILON WITH TONOSwTA WITH TONOSvIOTA WITH TONOS,38C,aGREEK CAPITAL LET",
   "TER OMICRON WITH TONOS,38E,aGREEK CAPITAL LETTER UPSILON WITH TONOSvOMEGA WITH TONOSgSMALL LET",
   "TER IOTA WITH DIALYTIKA AND TONOSgCAPITAL LETTER ALPHAvBETAvGAMMAvDELTAvEPSILONvZETAvETAvTHETA",
   "vIOTAvKAPPAvLAMDAvMUvNUvXIvOMICRONvPIvRHO,3A3,aGREEK CAPITAL LETTER SIGMAvTAUvUPSILONvPHIvCHIv",
   "PSIvOMEGAvIOTA WITH DIALYTIKAvUPSILON WITH DIALYTIKAgSMALL LETTER ALPHA WITH TONOStEPSILON WIT",
   "H TONOSuTA WITH TONOStIOTA WITH TONOStUPSILON WITH DIALYTIKA AND TONOStALPHAtBETAtGAMMAtDELTAt",
   "EPSILONtZETAtETAtTHETAtIOTAtKAPPAtLAMDAtMUtNUtXItOMICRONtPItRHOtFINAL SIGMAtSIGMAtTAUtUPSILONt",
   "PHItCHItPSItOMEGAtIOTA WITH DIALYTIKAtUPSILON WITH DIALYTIKAtOMICRON WITH TONOStUPSILON WITH T",
   "ONOStOMEGA WITH TONOSgCAPITAL KAI SYMBOLgBETA SYMBOLgTHETA SYMBOLgUPSILON WITH HOOK SYMBOLtACU",
   "TE AND HOOK SYMBOLtDIAERESIS AND HOOK SYMBOLgPHI SYMBOLhI SYMBOLgKAI SYMBOLgLETTER ARCHAIC KOP",
   "PAgSMALL LETTER ARCHAIC KOPPAgLETTER STIGMAgSMALL LETTER STIGMAgLETTER DIGAMMAgSMALL LETTER DI",
   "GAMMAgLETTER KOPPAgSMALL LETTER KOPPAgLETTER SAMPIgSMALL LETTER SAMPIaCOPTIC CAPITAL LETTER SH",
   "EIhSMALL LETTER SHEIhCAPITAL LETTER FEIhSMALL LETTER FEIhCAPITAL LETTER KHEIhSMALL LETTER KHEI",
   "hCAPITAL LETTER HORIhSMALL LETTER HORIhCAPITAL LETTER GANGIAhSMALL LETTER GANGIAhCAPITAL LETTE",
   "R SHIMAhSMALL LETTER SHIMAhCAPITAL LETTER DEIhSMALL LETTER DEIaGREEK KAPPA SYMBOLgRHO SYMBOLgL",
   "UNATE SIGMA SYMBOLhETTER YOTgCAPITAL THETA SYMBOLgLUNATE EPSILON SYMBOLgREVERSED LUNATE EPSILO",
   "N SYMBOLgCAPITAL LETTER SHOgSMALL LETTER SHOgCAPITAL LUNATE SIGMA SYMBOLpETTER SANgSMALL LETTE",
   "R SANgRHO WITH STROKE SYMBOLgCAPITAL REVERSED LUNATE SIGMA SYMBOLoDOTTED LUNATE SIGMA SYMBOLoR",
   "EVERSED DOTTED LUNATE SIGMA SYMBOLaCYRILLIC CAPITAL LETTER IE WITH GRAVEzOyDJEyGJEyUKRAINIAN I",
   "EyDZEyBYELORUSSIAN-UKRAINIAN IyYIyJEyLJEyNJEyTSHEyKJEyI WITH GRAVEySHORT UyDZHEyAyBEyVEyGHEyDE",
   "yIEyZHEzEyIySHORT IyKAyELzMzNyOyPEyERzSyTEyUyEFyHAyTSEyCHEySHA!CHAyHARD SIGNyYERUySOFT SIGNyEy",
   "YUzAjSMALL LETTER AwBEwVEwGHEwDEwIEwZHExEwIwSHORT IwKAwELxMxNwOwPEwERxSwTEwUwEFwHAwTSEwCHEwSHA",
   "yCHAwHARD SIGNwYERUwSOFT SIGNwEwYUxAwIE WITH GRAVExOwDJEwGJEwUKRAINIAN IEwDZEwBYELORUSSIAN-UKR",
   "AINIAN IwYIwJEwLJEwNJEwTSHEwKJEwI WITH GRAVEwSHORT UwDZHEjCAPITAL LETTER OMEGAjSMALL LETTER OM",
   "EGAjCAPITAL LETTER YATjSMALL LETTER YATjCAPITAL LETTER IOTIFIED EjSMALL LETTER IOTIFIED EjCAPI",
   "TAL LETTER LITTLE YUSjSMALL LETTER LITTLE YUSjCAPITAL LETTER IOTIFIED LITTLE YUSjSMALL LETTER ",
   "IOTIFIED LITTLE YUSjCAPITAL LETTER BIG YUSjSMALL LETTER BIG YUSjCAPITAL LETTER IOTIFIED BIG YU",
   "SjSMALL LETTER IOTIFIED BIG YUSjCAPITAL LETTER KSIjSMALL LETTER KSIjCAPITAL LETTER PSIjSMALL L",
   "ETTER PSIjCAPITAL LETTER FITAjSMALL LETTER FITAjCAPITAL LETTER IZHITSAjSMALL LETTER IZHITSAjCA",
   "PITAL LETTER IZHITSA WITH DOUBLE GRAVE ACCENTjSMALL LETTER IZHITSA WITH DOUBLE GRAVE ACCENTjCA",
   "PITAL LETTER UKjSMALL LETTER UKjCAPITAL LETTER ROUND OMEGAjSMALL LETTER ROUND OMEGAjCAPITAL LE",
   "TTER OMEGA WITH TITLOjSMALL LETTER OMEGA WITH TITLOjCAPITAL LETTER OTjSMALL LETTER OTjCAPITAL ",
   "LETTER KOPPAjSMALL LETTER KOPPAjTHOUSANDS SIGNbOMBINING CYRILLIC TITLOtPALATALIZATIONtDASIA PN",
   "EUMATAtPSILI PNEUMATAuOKRYTIEtHUNDRED THOUSANDS SIGNtMILLIONS SIGNbYRILLIC CAPITAL LETTER SHOR",
   "T I WITH TAILjSMALL LETTER SHORT I WITH TAILjCAPITAL LETTER SEMISOFT SIGNjSMALL LETTER SEMISOF",
   "T SIGNjCAPITAL LETTER ER WITH TICKjSMALL LETTER ER WITH TICKjCAPITAL LETTER GHE WITH UPTURNjSM",
   "ALL LETTER GHE WITH UPTURNjCAPITAL LETTER GHE WITH STROKEjSMALL LETTER GHE WITH STROKEjCAPITAL",
   " LETTER GHE WITH MIDDLE HOOKjSMALL LETTER GHE WITH MIDDLE HOOKjCAPITAL LETTER ZHE WITH DESCEND",
   "ERjSMALL LETTER ZHE WITH DESCENDERjCAPITAL LETTER ZE WITH DESCENDERjSMALL LETTER ZE WITH DESCE",
   "NDERjCAPITAL LETTER KA WITH DESCENDERjSMALL LETTER KA WITH DESCENDERjCAPITAL LETTER KA WITH VE",
   "RTICAL STROKEjSMALL LETTER KA WITH VERTICAL STROKEjCAPITAL LETTER KA WITH STROKEjSMALL LETTER ",
   "KA WITH STROKEjCAPITAL LETTER BASHKIR KAjSMALL LETTER BASHKIR KAjCAPITAL LETTER EN WITH DESCEN",
   "DERjSMALL LETTER EN WITH DESCENDERjCAPITAL LIGATURE EN GHEjSMALL LIGATURE EN GHEjCAPITAL LETTE",
   "R PE WITH MIDDLE HOOKjSMALL LETTER PE WITH MIDDLE HOOKjCAPITAL LETTER ABKHASIAN HAjSMALL LETTE",
   "R ABKHASIAN HAjCAPITAL LETTER ES WITH DESCENDERjSMALL LETTER ES WITH DESCENDERjCAPITAL LETTER ",
   "TE WITH DESCENDERjSMALL LETTER TE WITH DESCENDERjCAPITAL LETTER STRAIGHT UjSMALL LETTER STRAIG",
   "HT UjCAPITAL LETTER STRAIGHT U WITH STROKEjSMALL LETTER STRAIGHT U WITH STROKEjCAPITAL LETTER ",
   "HA WITH DESCENDERjSMALL LETTER HA WITH DESCENDERjCAPITAL LIGATURE TE TSEjSMALL LIGATURE TE TSE",
   "jCAPITAL LETTER CHE WITH DESCENDERjSMALL LETTER CHE WITH DESCENDERjCAPITAL LETTER CHE WITH VER",
   "TICAL STROKEjSMALL LETTER CHE WITH VERTICAL STROKEjCAPITAL LETTER SHHAjSMALL LETTER SHHAjCAPIT",
   "AL LETTER ABKHASIAN CHEjSMALL LETTER ABKHASIAN CHEjCAPITAL LETTER ABKHASIAN CHE WITH DESCENDER",
   "jSMALL LETTER ABKHASIAN CHE WITH DESCENDERjLETTER PALOCHKAjCAPITAL LETTER ZHE WITH BREVEjSMALL",
   " LETTER ZHE WITH BREVEjCAPITAL LETTER KA WITH HOOKjSMALL LETTER KA WITH HOOKjCAPITAL LETTER EL",
   " WITH TAILjSMALL LETTER EL WITH TAILjCAPITAL LETTER EN WITH HOOKjSMALL LETTER EN WITH HOOKjCAP",
   "ITAL LETTER EN WITH TAILjSMALL LETTER EN WITH TAILjCAPITAL LETTER KHAKASSIAN CHEjSMALL LETTER ",
   "KHAKASSIAN CHEjCAPITAL LETTER EM WITH TAILjSMALL LETTER EM WITH TAILwPALOCHKAjCAPITAL LETTER A",
   " WITH BREVEjSMALL LETTER A WITH BREVEjCAPITAL LETTER A WITH DIAERESISjSMALL LETTER A WITH DIAE",
   "RESISjCAPITAL LIGATURE A IEjSMALL LIGATURE A IEjCAPITAL LETTER IE WITH BREVEjSMALL LETTER IE W",
   "ITH BREVEjCAPITAL LETTER SCHWAjSMALL LETTER SCHWAjCAPITAL LETTER SCHWA WITH DIAERESISjSMALL LE",
   "TTER SCHWA WITH DIAERESISjCAPITAL LETTER ZHE WITH DIAERESISjSMALL LETTER ZHE WITH DIAERESISjCA",
   "PITAL LETTER ZE WITH DIAERESISjSMALL LETTER ZE WITH DIAERESISjCAPITAL LETTER ABKHASIAN DZEjSMA",
   "LL LETTER ABKHASIAN DZEjCAPITAL LETTER I WITH MACRONjSMALL LETTER I WITH MACRONjCAPITAL LETTER",
   " I WITH DIAERESISjSMALL LETTER I WITH DIAERESISjCAPITAL LETTER O WITH DIAERESISjSMALL LETTER O",
   " WITH DIAERESISjCAPITAL LETTER BARRED OjSMALL LETTER BARRED OjCAPITAL LETTER BARRED O WITH DIA",
   "ERESISjSMALL LETTER BARRED O WITH DIAERESISjCAPITAL LETTER E WITH DIAERESISjSMALL LETTER E WIT",
   "H DIAERESISjCAPITAL LETTER U WITH MACRONjSMALL LETTER U WITH MACRONjCAPITAL LETTER U WITH DIAE",
   "RESISjSMALL LETTER U WITH DIAERESISjCAPITAL LETTER U WITH DOUBLE ACUTEjSMALL LETTER U WITH DOU",
   "BLE ACUTEjCAPITAL LETTER CHE WITH DIAERESISjSMALL LETTER CHE WITH DIAERESISjCAPITAL LETTER GHE",
   " WITH DESCENDERjSMALL LETTER GHE WITH DESCENDERjCAPITAL LETTER YERU WITH DIAERESISjSMALL LETTE",
   "R YERU WITH DIAERESISjCAPITAL LETTER GHE WITH STROKE AND HOOKjSMALL LETTER GHE WITH STROKE AND",
   " HOOKjCAPITAL LETTER HA WITH HOOKjSMALL LETTER HA WITH HOOKjCAPITAL LETTER HA WITH STROKEjSMAL",
   "L LETTER HA WITH STROKEjCAPITAL LETTER KOMI DEjSMALL LETTER KOMI DEjCAPITAL LETTER KOMI DJEjSM",
   "ALL LETTER KOMI DJEjCAPITAL LETTER KOMI ZJEjSMALL LETTER KOMI ZJEjCAPITAL LETTER KOMI DZJEjSMA",
   "LL LETTER KOMI DZJEjCAPITAL LETTER KOMI LJEjSMALL LETTER KOMI LJEjCAPITAL LETTER KOMI NJEjSMAL",
   "L LETTER KOMI NJEjCAPITAL LETTER KOMI SJEjSMALL LETTER KOMI SJEjCAPITAL LETTER KOMI TJEjSMALL ",
   "LETTER KOMI TJEjCAPITAL LETTER REVERSED ZEjSMALL LETTER REVERSED ZEjCAPITAL LETTER EL WITH HOO",
   "KjSMALL LETTER EL WITH HOOKjCAPITAL LETTER LHAjSMALL LETTER LHAjCAPITAL LETTER RHAjSMALL LETTE",
   "R RHAjCAPITAL LETTER YAEjSMALL LETTER YAEjCAPITAL LETTER QAjSMALL LETTER QAjCAPITAL LETTER WEj",
   "SMALL LETTER WEjCAPITAL LETTER ALEUT KAjSMALL LETTER ALEUT KAjCAPITAL LETTER EL WITH MIDDLE HO",
   "OKjSMALL LETTER EL WITH MIDDLE HOOKjCAPITAL LETTER EN WITH MIDDLE HOOKjSMALL LETTER EN WITH MI",
   "DDLE HOOKjCAPITAL LETTER PE WITH DESCENDERjSMALL LETTER PE WITH DESCENDERjCAPITAL LETTER SHHA ",
   "WITH DESCENDERjSMALL LETTER SHHA WITH DESCENDERjCAPITAL LETTER EN WITH LEFT HOOKjSMALL LETTER ",
   "EN WITH LEFT HOOKjCAPITAL LETTER DZZHEjSMALL LETTER DZZHEjCAPITAL LETTER DCHEjSMALL LETTER DCH",
   "EjCAPITAL LETTER EL WITH DESCENDERjSMALL LETTER EL WITH DESCENDER,531,aARMENIAN CAPITAL LETTER",
   " AYByBENyGIMyDAyECHyZAyEHzTyTOyZHEyINIyLIWNyXEHyCAyKENyHOyJAyGHADyCHEHyMENyYIyNOWySHAyVOyCHAyP",
   "EHyJHEHyRAySEHyVEWyTIWNyREHyCOyYIWNyPIWRyKEHyOHyFEH,559,aARMENIAN MODIFIER LETTER LEFT HALF RI",
   "NGjAPOSTROPHEjEMPHASIS MARKkXCLAMATION MARKjCOMMAjQUESTION MARKjABBREVIATION MARKjSMALL LETTER",
   " TURNED AYBwAYBwBENwGIMwDAwECHwZAwEHxTwTOwZHEwINIwLIWNwXEHwCAwKENwHOwJAwGHADwCHEHwMENwYIwNOWwS",
   "HAwVOwCHAwPEHwJHEHwRAwSEHwVEWwTIWNwREHwCOwYIWNwPIWRwKEHwOHwFEHqIGATURE ECH YIWNqETTER YI WITH ",
   "STROKEjFULL STOPjHYPHEN,58D,aRIGHT-FACING ARMENIAN ETERNITY SIGNaLEFT-FACING ARMENIAN ETERNITY",
   " SIGNaARMENIAN DRAM SIGN,591,aHEBREW ACCENT ETNAHTAoSEGOLpHALSHELEToZAQEF QATANuGADOLoTIPEHAoR",
   "EVIAoZARQAoPASHTAoYETIVoTEVIRoGERESHu MUQDAMrSHAYIMoQARNEY PARAoTELISHA GEDOLAoPAZERoATNAH HAF",
   "UKHoMUNAHpAHAPAKHpERKHAu KEFULAoDARGAoQADMAoTELISHA QETANAoYERAH BEN YOMOoOLEoILUYoDEHIoZINORh",
   "MARK MASORA CIRCLEhPOINT SHEVAnHATAF SEGOLtPATAHtQAMATSoIRIQnTSEREnSEGOLnPATAHnQAMATSnHOLAMs H",
   "ASER FOR VAVnQUBUTSnDAGESH OR MAPIQnMETEGiUNCTUATION MAQAFiOINT RAFEiUNCTUATION PASEQiOINT SHI",
   "N DOToIN DOTiUNCTUATION SOF PASUQhMARK UPPER DOTmLOWER DOThPUNCTUATION NUN HAFUKHAiOINT QAMATS",
   " QATAN,5D0,aHEBREW LETTER ALEFoBEToGIMELoDALEToHEoVAVoZAYINoHEToTEToYODoFINAL KAFoKAFoLAMEDoFI",
   "NAL MEMoMEMoFINAL NUNoNUNoSAMEKHoAYINoFINAL PEoPEoFINAL TSADIoTSADIoQOFoRESHoSHINoTAV,5EF,aHEB",
   "REW YOD TRIANGLEhLIGATURE YIDDISH DOUBLE VAVyVAV YODyDOUBLE YODhPUNCTUATION GERESHwSHAYIM,600,",
   "aARABIC NUMBER SIGNhSIGN SANAHhFOOTNOTE MARKERhSIGN SAFHAoMVAThNUMBER MARK ABOVEg-INDIC CUBE R",
   "OOTnFOURTH ROOTg RAYg-INDIC PER MILLE SIGNrTEN THOUSAND SIGNbFGHANI SIGNbRABIC COMMAhDATE SEPA",
   "RATORhPOETIC VERSE SIGNhSIGN MISRAmSALLALLAHOU ALAYHE WASSALLAMmALAYHE ASSALLAMmRAHMATULLAH AL",
   "AYHEoDI ALLAHOU ANHUmTAKHALLUSiMALL HIGH TAHsLIGATURE ALEF WITH LAM WITH YEHsZAINnFATHAnDAMMAn",
   "KASRAiEMICOLONhLETTER MARKhEND OF TEXT MARKhTRIPLE DOT PUNCTUATION MARKhQUESTION MARKhLETTER K",
   "ASHMIRI YEHoHAMZAoALEF WITH MADDA ABOVEyHAMZA ABOVEoWAW WITH HAMZA ABOVEoALEF WITH HAMZA BELOW",
   "oYEH WITH HAMZA ABOVEoALEFoBEHoTEH MARBUTArpHEHoJEEMoHAHoKHAHoDALoTHALoREHoZAINoSEENpHEENpADoD",
   "ADoTAHoZAHoAINoGHAINoKEHEH WITH TWO DOTS ABOVE!HREE DOTS BELOWoFARSI YEH WITH INVERTED V%TWO D",
   "OTS ABOVE&HREE DOTS ABOVEhTATWEELhLETTER FEHoQAFoKAFoLAMoMEEMoNOONoHEHoWAWoALEF MAKSURAoYEHhFA",
   "THATANhDAMMATANhKASRATANhFATHAhDAMMAhKASRAhSHADDAiUKUNhMADDAH ABOVEhHAMZA ABOVEnBELOWhSUBSCRIP",
   "T ALEFhINVERTED DAMMAhMARK NOON GHUNNAhZWARAKAYhVOWEL SIGN SMALL V ABOVEsINVERTED SMALL V ABOV",
   "EsDOT BELOWhREVERSED DAMMAhFATHA WITH TWO DOTShWAVY HAMZA BELOWg-INDIC DIGIT ZEROtONEtTWOuHREE",
   "tFOURuIVEtSIXuEVENtEIGHTtNINEg PERCENT SIGNhDECIMAL SEPARATORhTHOUSANDS SEPARATORhFIVE POINTED",
   " STARhLETTER DOTLESS BEHwQAFoSUPERSCRIPT ALEFoALEF WASLAuITH WAVY HAMZA ABOVE.BELOWoHIGH HAMZA",
   "y ALEFzWAWoU WITH HAMZA ABOVEoHIGH HAMZA YEHoTTEHsEHoBEEHoTEH WITH RINGxTHREE DOTS ABOVE DOWNW",
   "ARDSoPEHoTEHEHoBEHEHoHAH WITH HAMZA ABOVExTWO DOTS VERTICAL ABOVEoNYEHoDYEHoHAH WITH THREE DOT",
   "S ABOVEoTCHEHtEHoDDALpAL WITH RINGxDOT BELOW) AND SMALL TAHqHALpDAHALpULpAL WITH THREE DOTS AB",
   "OVE DOWNWARDSxFOUR DOTS ABOVEoRREHpEH WITH SMALL VxRINGxDOT BELOWxSMALL V BELOWxDOT BELOW AND ",
   "DOT ABOVExTWO DOTS ABOVEoJEHoREH WITH FOUR DOTS ABOVEoSEEN WITH DOT BELOW AND DOT ABOVEyTHREE ",
   "DOTS BELOW= AND THREE DOTS ABOVEpAD WITH TWO DOTS BELOWyHREE DOTS ABOVEoTAH WITH THREE DOTS AB",
   "OVEoAIN WITH THREE DOTS ABOVEoDOTLESS FEHoFEH WITH DOT MOVED BELOW#BELOWoVEHoFEH WITH THREE DO",
   "TS BELOWoPEHEHoQAF WITH DOT ABOVExTHREE DOTS ABOVEoKEHEHoSWASH KAFoKAF WITH RINGxDOT ABOVEoNGo",
   "KAF WITH THREE DOTS BELOWoGAFr WITH RINGoNGOEHoGAF WITH TWO DOTS BELOWpUEHpAF WITH THREE DOTS ",
   "ABOVEoLAM WITH SMALL VxDOT ABOVExTHREE DOTS ABOVE+BELOWoNOON WITH DOT BELOWtGHUNNAoRNOONoNOON ",
   "WITH RINGyTHREE DOTS ABOVEoHEH DOACHASHMEEoTCHEH WITH DOT ABOVEoHEH WITH YEH ABOVEsGOALw WITH ",
   "HAMZA ABOVEoTEH MARBUTA GOALoWAW WITH RINGoKIRGHIZ OEoOEoUoYUoKIRGHIZ YUoWAW WITH TWO DOTS ABO",
   "VEoVEoFARSI YEHoYEH WITH TAILxSMALL VoWAW WITH DOT ABOVEoEoYEH WITH THREE DOTS BELOWsBARREEy W",
   "ITH HAMZA ABOVEhFULL STOPhLETTER AEhSMALL HIGH LIGATURE SAD WITH LAM WITH ALEF MAKSURA#QAF WIT",
   "H LAM WITH ALEF MAKSURAsMEEM INITIAL FORMsLAM ALEFsJEEMsTHREE DOTSsSEENhEND OF AYAHhSTART OF R",
   "UB EL HIZBiMALL HIGH ROUNDED ZEROsUPRIGHT RECTANGULAR ZEROsDOTLESS HEAD OF KHAHsMEEM ISOLATED ",
   "FORMnLOW SEENnHIGH MADDAnWAWnYEHnHIGH YEHsNOONhPLACE OF SAJDAHhEMPTY CENTRE LOW STOPuHIGH STOP",
   "hROUNDED HIGH STOP WITH FILLED CENTREhSMALL LOW MEEMhLETTER DAL WITH INVERTED VoREH WITH INVER",
   "TED VaEXTENDED ARABIC-INDIC DIGIT ZERO$ONE$TWO%HREE$FOUR%IVE$SIX%EVEN$EIGHT$NINEaARABIC LETTER",
   " SHEEN WITH DOT BELOWoDAD WITH DOT BELOWoGHAIN WITH DOT BELOWhSIGN SINDHI AMPERSANDtPOSTPOSITI",
   "ON MENhLETTER HEH WITH INVERTED VaSYRIAC END OF PARAGRAPHhSUPRALINEAR FULL STOPjBLINEAR FULL S",
   "TOPjPRALINEAR COLONjBLINEAR COLONhHORIZONTAL COLONhCOLON SKEWED LEFTuRIGHThSUPRALINEAR COLON S",
   "KEWED LEFTjBLINEAR COLON SKEWED RIGHThCONTRACTIONhHARKLEAN OBELUSqMETOBELUSqASTERISCUS,70F,aSY",
   "RIAC ABBREVIATION MARKhLETTER ALAPHoSUPERSCRIPT ALAPHoBETHoGAMALt GARSHUNIoDALATHpOTLESS DALAT",
   "H RISHoHEoWAWoZAINoHETHoTETHs GARSHUNIoYUDHs HEoKAPHoLAMADHoMIMoNUNoSEMKATHoFINAL SEMKATHoEoPE",
   "oREVERSED PEoSADHEoQAPHoRISHoSHINoTAWoPERSIAN BHETHwGHAMALwDHALATHhPTHAHA ABOVEoBELOWoDOTTEDhZ",
   "QAPHA ABOVEoBELOWoDOTTEDhRBASA ABOVEnBELOWhDOTTED ZLAMA HORIZONTALuANGULARhHBASA ABOVEnBELOWm-",
   "ESASA DOTTEDhESASA ABOVEnBELOWhRWAHAhFEMININE DOThQUSHSHAYAhRUKKAKHAhTWO VERTICAL DOTS ABOVEzB",
   "ELOWiHREE DOTS ABOVEsBELOWhOBLIQUE LINE ABOVEuBELOWhMUSIChBARREKH,74D,aSYRIAC LETTER SOGDIAN Z",
   "HAINwKHAPHwFEaARABIC LETTER BEH WITH THREE DOTS HORIZONTALLY BELOWxDOT BELOW AND THREE DOTS AB",
   "OVExTHREE DOTS POINTING UPWARDS BELOW~S BELOW AND TWO DOTS ABOVEyWO DOTS BELOW AND DOT ABOVExI",
   "NVERTED SMALL V BELOWxSMALL VoHAH WITH TWO DOTS ABOVEyHREE DOTS POINTING UPWARDS BELOWoDAL WIT",
   "H TWO DOTS VERTICALLY BELOW AND SMALL TAHxINVERTED SMALL V BELOWoREH WITH STROKEoSEEN WITH FOU",
   "R DOTS ABOVEoAIN WITH TWO DOTS ABOVEyHREE DOTS POINTING DOWNWARDS ABOVEyWO DOTS VERTICALLY ABO",
   "VEoFEH WITH TWO DOTS BELOWyHREE DOTS POINTING UPWARDS BELOWoKEHEH WITH DOT ABOVEzTHREE DOTS AB",
   "OVE/POINTING UPWARDS BELOWoMEEM WITH DOT ABOVE$BELOWoNOON WITH TWO DOTS BELOWySMALL TAH&VoLAM ",
   "WITH BARoREH WITH TWO DOTS VERTICALLY ABOVExHAMZA ABOVEoSEEN WITH TWO DOTS VERTICALLY ABOVEoHA",
   "H WITH SMALL ARABIC LETTER TAH BELOW_AND TWO DOTSoSEEN WITH SMALL ARABIC LETTER TAH AND TWO DO",
   "TSoREH WITH SMALL ARABIC LETTER TAH AND TWO DOTSoHAH WITH SMALL ARABIC LETTER TAH ABOVEoALEF W",
   "ITH EXTENDED ARABIC-INDIC DIGIT TWO ABOVE~IT THREE ABOVEoFARSI YEH WITH EXTENDED ARABIC-INDIC ",
   "DIGIT TWO ABOVE~C DIGIT THREE ABOVE~C DIGIT FOUR BELOWoWAW WITH EXTENDED ARABIC-INDIC DIGIT TW",
   "O ABOVE~T THREE ABOVEoYEH BARREE WITH EXTENDED ARABIC-INDIC DIGIT TWO ABOVE~IC DIGIT THREE ABO",
   "VEoHAH WITH EXTENDED ARABIC-INDIC DIGIT FOUR BELOWoSEEN WITH EXTENDED ARABIC-INDIC DIGIT FOUR ",
   "ABOVEyINVERTED VoKAF WITH TWO DOTS ABOVEaTHAANA LETTER HAAoSHAVIYANIoNOONUoRAAoBAAoLHAVIYANIoK",
   "AAFUoALIFUoVAAVUoMEEMUoFAAFUoDHAALUoTHAAoLAAMUoGAAFUpNAVIYANIoSEENUoDAVIYANIoZAVIYANIoTAVIYANI",
   "oYAAoPAVIYANIoJAVIYANIoCHAVIYANIoTTAAoHHAAoKHAAoTHAALUoZAAoSHEENUpAADHUoDAADHUoTOoZOoAINUoGHAI",
   "NUoQAAFUoWAAVUhABAFILIiABAAFILIhIBIFILIhEEBEEFILIhUBUFILIhOOBOOFILIhEBEFILIiYBEYFILIhOBOFILIiA",
   "BOAFILIhSUKUNhLETTER NAA,7C0,aNKO DIGIT ZEROkONEkTWOlHREEkFOURlIVEkSIXlEVENkEIGHTkNINEeLETTER ",
   "AlEElIlElUlOOmlDAGBASINNAlNlBAlPAlTAlJAlCHAlDAlRAmRAlSAlGBAlFAlKAlLAlNA WOLOSOlMAlNYAmAlHAlWAl",
   "YAlNYA WOLOSOlJONA JAqCHAqRAeCOMBINING SHORT HIGH TONEuLOW TONEuRISING TONEoLONG DESCENDING TO",
   "NEtHIGH TONEtLOW TONEtRISING TONEoNASALIZATION MARKoDOUBLE DOT ABOVEeHIGH TONE APOSTROPHEeLOW ",
   "TONE APOSTROPHEeSYMBOL OO DENNENlGBAKURUNENeCOMMAeEXCLAMATION MARKeLAJANYALAN,7FD,aNKO DANTAYA",
   "LANfOROME SIGNeTAMAN SIGNaSAMARITAN LETTER ALAFrBITrGAMANrDALATrIYrBAArZENrITrTITrYUTrKAAFrLAB",
   "ATrMIMrNUNrSINGAATrINrFIrTSAADIYrQUFrRISHrSHANrTAAFkMARK INr-ALAFpOCCLUSIONpDAGESHlODIFIER LET",
   "TER EPENTHETIC YUTlARK EPENTHETIC YUTkVOWEL SIGN LONG EvEvOVERLONG AAvLONG AAvAAvOVERLONG AvLO",
   "NG AvAkMODIFIER LETTER SHORT AkVOWEL SIGN SHORT AvLONG UvUkMODIFIER LETTER IkVOWEL SIGN LONG I",
   "vIvOvSUKUNkMARK NEQUDAA,830,aSAMARITAN PUNCTUATION NEQUDAAwAFSAAQxNGEDwBAUwATMAAUwSHIYYAALAAkA",
   "BBREVIATION MARKkPUNCTUATION MELODIC QITSAwZIQAAwQITSAwZAEFwTURUwARKAANUwSOF MASHFAATwANNAAU,8",
   "40,aMANDAIC LETTER HALQApABqGqDqHpUSHENNApAZpITpATTqKSArqLqMqNqSpINpAPqSZqQqRqSHqTpDUSHENNApKA",
   "DpAINiAFFRICATION MARKiVOCALIZATION MARKiGEMINATION MARK,85E,aMANDAIC PUNCTUATION,860,aSYRIAC ",
   "LETTER MALAYALAM NGAyJAyNYAyTTAyNNA!NAyBHAyRAyLLA!LAySSA,870,aARABIC LETTER ALEF WITH ATTACHED",
   " FATHA*TOP RIGHT FATHAyRIGHT MIDDLE STROKEyLEFT MIDDLE STROKEyATTACHED KASRA*BOTTOM RIGHT KASR",
   "A*ROUND DOT ABOVE+IGHT ROUND DOT*LEFT ROUND DOT*ROUND DOT BELOWyDOT ABOVEyATTACHED TOP RIGHT F",
   "ATHA AND DOT ABOVEyRIGHT MIDDLE STROKE AND DOT ABOVEyATTACHED BOTTOM RIGHT KASRA AND DOT ABOVE",
   "*TOP RIGHT FATHA AND LEFT RINGyRIGHT MIDDLE STROKE AND LEFT RINGyATTACHED BOTTOM RIGHT KASRA A",
   "ND LEFT RING*RIGHT HAMZA*LEFT HAMZAhTATWEEL WITH OVERSTRUCK HAMZA(WAWuTWO DOTS BELOWhLETTER TH",
   "IN YEHhBASELINE ROUND DOThRAISED ROUND DOThLETTER NOON WITH INVERTED SMALL VoHAH WITH INVERTED",
   " SMALL V BELOWoTAH WITH DOT BELOWxTHREE DOTS BELOWoKEHEH WITH TWO DOTS VERTICALLY BELOWhVERTIC",
   "AL TAIL,890,aARABIC POUND MARK ABOVEiIASTRE MARK ABOVE,898,aARABIC SMALL HIGH WORD AL-JUZnLOW ",
   "WORD ISHMAAMxMAALAwTASHEELhMADDA WAAJIBhSUPERSCRIPT ALEF MOKHASSAShDOUBLED MADDAhHALF MADDA OV",
   "ER MADDAhLETTER BEH WITH SMALL V BELOWxHAMZA ABOVEoJEEM WITH TWO DOTS ABOVEoTAH WITH TWO DOTS ",
   "ABOVEoFEH WITH DOT BELOW AND THREE DOTS ABOVEoQAF WITH DOT BELOWoLAM WITH DOUBLE BARoMEEM WITH",
   " THREE DOTS ABOVEoYEH WITH TWO DOTS BELOW AND HAMZA ABOVE?DOT ABOVEoREH WITH LOOPoWAW WITH DOT",
   " WITHINoROHINGYA YEHoLOW ALEFoDAL WITH THREE DOTS BELOWoSAD WITH THREE DOTS BELOWoGAF WITH INV",
   "ERTED STROKEoSTRAIGHT WAWoZAIN WITH INVERTED V ABOVEoAIN WITH THREE DOTS BELOWoKAF WITH DOT BE",
   "LOWoQAF WITH DOT BELOW AND NO DOTS ABOVEoBEH WITH SMALL MEEM ABOVEoPEH WITH SMALL MEEM ABOVEoT",
   "EH WITH SMALL TEH ABOVEoREH WITH SMALL NOON ABOVEoYEH WITH TWO DOTS BELOW AND SMALL NOON ABOVE",
   "oAFRICAN FEHwQAFwNOONoPEH WITH SMALL VoTEH WITH SMALL VpTEH WITH SMALL VpCHEH WITH SMALL VoKEH",
   "EH WITH SMALL VoGHAIN WITH THREE DOTS ABOVEoAFRICAN QAF WITH THREE DOTS ABOVEoJEEM WITH THREE ",
   "DOTS ABOVE.BELOWoLAM WITH SMALL ARABIC LETTER TAH ABOVEoGRAFhSMALL FARSI YEHnHIGH FARSI YEHsYE",
   "H BARREE WITH TWO DOTS BELOWsWORD SAHsZAHhLARGE ROUND DOT ABOVExBELOWhSUKUN BELOWhLARGE CIRCLE",
   " BELOWnROUND DOT INSIDE CIRCLE BELOWhSMALL LOW WAWnHIGH WORD AR-RUBsSADsAINsQAFsNOON WITH KASR",
   "AnLOW NOON WITH KASRAnHIGH WORD ATH-THALATHAyS-SAJDAyN-NISFxSAKTAxQIFxWAQFAsFOOTNOTE MARKERsSI",
   "GN SAFHAhDISPUTED END OF AYAHhTURNED DAMMA BELOWhCURLY FATHAnDAMMAnKASRAnFATHATANnDAMMATANnKAS",
   "RATANhTONE ONE DOT ABOVEmTWO DOTS ABOVEmLOOP ABOVEmONE DOT BELOWmTWO DOTS BELOWmLOOP BELOWhOPE",
   "N FATHATANmDAMMATANmKASRATANhSMALL HIGH WAWhFATHA WITH RINGsDOT ABOVEhKASRA WITH DOT BELOWhLEF",
   "T ARROWHEAD ABOVEhRIGHT ARROWHEAD ABOVEhLEFT ARROWHEAD BELOWhRIGHT ARROWHEAD BELOWhDOUBLE RIGH",
   "T ARROWHEAD ABOVE. WITH DOThRIGHT ARROWHEAD ABOVE WITH DOThDAMMA WITH DOThMARK SIDEWAYS NOON G",
   "HUNNAaDEVANAGARI SIGN INVERTED CANDRABINDUqCANDRABINDUqANUSVARAqVISARGAlLETTER SHORT AsAtAsItI",
   "sUtUsVOCALIC R!LsCANDRA EsSHORT EsEsAIsCANDRA OsSHORT OsOsAUsKAtHAsGAtHAsNGAsCAtHAsJAtHAsNYAsT",
   "TAuHAsDDAuHAsNNAsTAtHAsDAtHAsNAtNNAsPAtHAsBAtHAsMAsYAsRAtRAsLAtLAuLAsVAsSHAtSAtAsHAlVOWEL SIGN",
   " OExOElSIGN NUKTAqAVAGRAHAlVOWEL SIGN AAwIxIwUxUwVOCALIC R(RwCANDRA EwSHORT EwEwAIwCANDRA OwSH",
   "ORT OwOwAUlSIGN VIRAMAlVOWEL SIGN PRISHTHAMATRA EwAWlOMlSTRESS SIGN UDATTAxANUDATTAlGRAVE ACCE",
   "NTlACUTE ACCENTlVOWEL SIGN CANDRA LONG EwUExUElLETTER QAsKHHAsGHHAsZAsDDDHAsRHAsFAsYYAsVOCALIC",
   " RR!LLlVOWEL SIGN VOCALIC L(LlDANDAmOUBLE DANDAmIGIT ZEROrONErTWOsHREErFOURsIVErSIXsEVENrEIGHT",
   "rNINElABBREVIATION SIGNlSIGN HIGH SPACING DOTlLETTER CANDRA AsOEtOEsAWsUEtUEsMARWARI DDAsZHAsH",
   "EAVY YAsGGAsJJAsGLOTTAL STOPsDDDAsBBAaBENGALI ANJIiSIGN CANDRABINDUnANUSVARAnVISARGA,985,aBENG",
   "ALI LETTER AqApIqIpUqUpVOCALIC RxL,98F,aBENGALI LETTER EpAI,993,aBENGALI LETTER OpAUpKAqHApGAq",
   "HApNGApCAqHApJAqHApNYApTTArHApDDArHApNNApTAqHApDAqHApNA,9AA,aBENGALI LETTER PAqHApBAqHApMApYAp",
   "RA,9B2,aBENGALI LETTER LA,9B6,aBENGALI LETTER SHAqSAqApHA,9BC,aBENGALI SIGN NUKTAnAVAGRAHAiVOW",
   "EL SIGN AAtIuItUuUtVOCALIC R$R,9C7,aBENGALI VOWEL SIGN EtAI,9CB,aBENGALI VOWEL SIGN OtAUiSIGN ",
   "VIRAMAiLETTER KHANDA TA,9D7,aBENGALI AU LENGTH MARK,9DC,aBENGALI LETTER RRAqHA,9DF,aBENGALI LE",
   "TTER YYApVOCALIC RRxLLiVOWEL SIGN VOCALIC L$L,9E6,aBENGALI DIGIT ZEROoONEoTWOpHREEoFOURpIVEoSI",
   "XpEVENoEIGHToNINEiLETTER RA WITH MIDDLE DIAGONALxLOWER DIAGONALiRUPEE MARKoSIGNiCURRENCY NUMER",
   "ATOR ONE#TWO$HREE#FOUR#ONE LESS THAN THE DENOMINATORrDENOMINATOR SIXTEENiISSHARiGANDA MARKiLET",
   "TER VEDIC ANUSVARAiABBREVIATION SIGNiSANDHI MARK,A01,aGURMUKHI SIGN ADAK BINDIoBINDIoVISARGA,A",
   "05,aGURMUKHI LETTER ArAqIrIqUrU,A0F,aGURMUKHI LETTER EEqAI,A13,aGURMUKHI LETTER OOqAUqKArHAqGA",
   "rHAqNGAqCArHAqJArHAqNYAqTTAsHAqDDAsHAqNNAqTArHAqDArHAqNA,A2A,aGURMUKHI LETTER PArHAqBArHAqMAqY",
   "AqRA,A32,aGURMUKHI LETTER LArLA,A35,aGURMUKHI LETTER VAqSHA,A38,aGURMUKHI LETTER SAqHA,A3C,aGU",
   "RMUKHI SIGN NUKTA,A3E,aGURMUKHI VOWEL SIGN AAuIvIuUvU,A47,aGURMUKHI VOWEL SIGN EEuAI,A4B,aGURM",
   "UKHI VOWEL SIGN OOuAUjSIGN VIRAMA,A51,aGURMUKHI SIGN UDAAT,A59,aGURMUKHI LETTER KHHAqGHHAqZAqR",
   "RA,A5E,aGURMUKHI LETTER FA,A66,aGURMUKHI DIGIT ZEROpONEpTWOqHREEpFOURqIVEpSIXqEVENpEIGHTpNINEj",
   "TIPPIjADDAKjIRIjURAjEK ONKARjSIGN YAKASHjABBREVIATION SIGN,A81,aGUJARATI SIGN CANDRABINDUoANUS",
   "VARAoVISARGA,A85,aGUJARATI LETTER ArAqIrIqUrUqVOCALIC RyLjVOWEL CANDRA E,A8F,aGUJARATI LETTER ",
   "EqAIjVOWEL CANDRA O,A93,aGUJARATI LETTER OqAUqKArHAqGArHAqNGAqCArHAqJArHAqNYAqTTAsHAqDDAsHAqNN",
   "AqTArHAqDArHAqNA,AAA,aGUJARATI LETTER PArHAqBArHAqMAqYAqRA,AB2,aGUJARATI LETTER LArLA,AB5,aGUJ",
   "ARATI LETTER VAqSHArSArAqHA,ABC,aGUJARATI SIGN NUKTAoAVAGRAHAjVOWEL SIGN AAuIvIuUvUuVOCALIC R%",
   "RuCANDRA E,AC7,aGUJARATI VOWEL SIGN EuAIuCANDRA O,ACB,aGUJARATI VOWEL SIGN OuAUjSIGN VIRAMA,AD",
   "0,aGUJARATI OM,AE0,aGUJARATI LETTER VOCALIC RRyLLjVOWEL SIGN VOCALIC L%L,AE6,aGUJARATI DIGIT Z",
   "EROpONEpTWOqHREEpFOURqIVEpSIXqEVENpEIGHTpNINEjABBREVIATION SIGNjRUPEE SIGN,AF9,aGUJARATI LETTE",
   "R ZHAjSIGN SUKUNpHADDAoMADDAHoTHREE-DOT NUKTA ABOVEoCIRCLE NUKTA ABOVEoTWO-CIRCLE NUKTA ABOVE,",
   "B01,aORIYA SIGN CANDRABINDUlANUSVARAlVISARGA,B05,aORIYA LETTER AoAnIoInUoUnVOCALIC RvL,B0F,aOR",
   "IYA LETTER EnAI,B13,aORIYA LETTER OnAUnKAoHAnGAoHAnNGAnCAoHAnJAoHAnNYAnTTApHAnDDApHAnNNAnTAoHA",
   "nDAoHAnNA,B2A,aORIYA LETTER PAoHAnBAoHAnMAnYAnRA,B32,aORIYA LETTER LAoLA,B35,aORIYA LETTER VAn",
   "SHAoSAoAnHA,B3C,aORIYA SIGN NUKTAlAVAGRAHAgVOWEL SIGN AArIsIrUsUrVOCALIC R!R,B47,aORIYA VOWEL ",
   "SIGN ErAI,B4B,aORIYA VOWEL SIGN OrAUgSIGN VIRAMA,B55,aORIYA SIGN OVERLINEgAI LENGTH MARKhU LEN",
   "GTH MARK,B5C,aORIYA LETTER RRAoHA,B5F,aORIYA LETTER YYAnVOCALIC RRvLLgVOWEL SIGN VOCALIC L!L,B",
   "66,aORIYA DIGIT ZEROmONEmTWOnHREEmFOURnIVEmSIXnEVENmEIGHTmNINEgISSHARgLETTER WAgFRACTION ONE Q",
   "UARTERtHALFpTHREE QUARTERSpONE SIXTEENTHtEIGHTHpTHREE SIXTEENTHS,B82,aTAMIL SIGN ANUSVARAlVISA",
   "RGA,B85,aTAMIL LETTER AoAnIoInUoU,B8E,aTAMIL LETTER EoEnAI,B92,aTAMIL LETTER OoOnAUnKA,B99,aTA",
   "MIL LETTER NGAnCA,B9C,aTAMIL LETTER JA,B9E,aTAMIL LETTER NYAnTTA,BA3,aTAMIL LETTER NNAnTA,BA8,",
   "aTAMIL LETTER NAoNNAnPA,BAE,aTAMIL LETTER MAnYAnRAoRAnLAoLApLAnVAnSHAoSAoAnHA,BBE,aTAMIL VOWEL",
   " SIGN AArIsIrUsU,BC6,aTAMIL VOWEL SIGN EsErAI,BCA,aTAMIL VOWEL SIGN OsOrAUgSIGN VIRAMA,BD0,aTA",
   "MIL OM,BD7,aTAMIL AU LENGTH MARK,BE6,aTAMIL DIGIT ZEROmONEmTWOnHREEmFOURnIVEmSIXnEVENmEIGHTmNI",
   "NEgNUMBER TENnONE HUNDREDrTHOUSANDgDAY SIGNgMONTH SIGNgYEAR SIGNgDEBIT SIGNgCREDIT SIGNgAS ABO",
   "VE SIGNgRUPEE SIGNgNUMBER SIGN,C00,aTELUGU SIGN COMBINING CANDRABINDU ABOVEnANDRABINDUmANUSVAR",
   "AmVISARGAmCOMBINING ANUSVARA ABOVEhLETTER ApAoIpIoUpUoVOCALIC RwL,C0E,aTELUGU LETTER EpEoAI,C1",
   "2,aTELUGU LETTER OpOoAUoKApHAoGApHAoNGAoCApHAoJApHAoNYAoTTAqHAoDDAqHAoNNAoTApHAoDApHAoNA,C2A,a",
   "TELUGU LETTER PApHAoBApHAoMAoYAoRApRAoLApLAqLAoVAoSHApSApAoHA,C3C,aTELUGU SIGN NUKTAmAVAGRAHAh",
   "VOWEL SIGN AAsItIsUtUsVOCALIC R#R,C46,aTELUGU VOWEL SIGN EtEsAI,C4A,aTELUGU VOWEL SIGN OtOsAUh",
   "SIGN VIRAMA,C55,aTELUGU LENGTH MARKhAI LENGTH MARK,C58,aTELUGU LETTER TSAoDZAoRRRA,C5D,aTELUGU",
   " LETTER NAKAARA POLLU,C60,aTELUGU LETTER VOCALIC RRwLLhVOWEL SIGN VOCALIC L#L,C66,aTELUGU DIGI",
   "T ZEROnONEnTWOoHREEnFOURoIVEnSIXoEVENnEIGHTnNINE,C77,aTELUGU SIGN SIDDHAMhFRACTION DIGIT ZERO ",
   "FOR ODD POWERS OF FOURwONE FOR ODD POWERS OF FOURwTWO FOR ODD POWERS OF FOURxHREE FOR ODD POWE",
   "RS OF FOURwONE FOR EVEN POWERS OF FOURwTWO FOR EVEN POWERS OF FOURxHREE FOR EVEN POWERS OF FOU",
   "RhSIGN TUUMUaKANNADA SIGN SPACING CANDRABINDUnCANDRABINDUnANUSVARAnVISARGAnSIDDHAMiLETTER AqAp",
   "IqIpUqUpVOCALIC RxL,C8E,aKANNADA LETTER EqEpAI,C92,aKANNADA LETTER OqOpAUpKAqHApGAqHApNGApCAqH",
   "ApJAqHApNYApTTArHApDDArHApNNApTAqHApDAqHApNA,CAA,aKANNADA LETTER PAqHApBAqHApMApYApRAqRApLAqLA",
   ",CB5,aKANNADA LETTER VApSHAqSAqApHA,CBC,aKANNADA SIGN NUKTAnAVAGRAHAiVOWEL SIGN AAtIuItUuUtVOC",
   "ALIC R$R,CC6,aKANNADA VOWEL SIGN EuEtAI,CCA,aKANNADA VOWEL SIGN OuOtAUiSIGN VIRAMA,CD5,aKANNAD",
   "A LENGTH MARKiAI LENGTH MARK,CDD,aKANNADA LETTER NAKAARA POLLUpFA,CE0,aKANNADA LETTER VOCALIC ",
   "RRxLLiVOWEL SIGN VOCALIC L$L,CE6,aKANNADA DIGIT ZEROoONEoTWOpHREEoFOURpIVEoSIXpEVENoEIGHToNINE",
   ",CF1,aKANNADA SIGN JIHVAMULIYAnUPADHMANIYA,D00,aMALAYALAM SIGN COMBINING ANUSVARA ABOVEqANDRAB",
   "INDUpANUSVARApVISARGAkLETTER VEDIC ANUSVARArAsArIsIrUsUrVOCALIC RzL,D0E,aMALAYALAM LETTER EsEr",
   "AI,D12,aMALAYALAM LETTER OsOrAUrKAsHArGAsHArNGArCAsHArJAsHArNYArTTAtHArDDAtHArNNArTAsHArDAsHAr",
   "NAsNNArPAsHArBAsHArMArYArRAsRArLAsLAtLArVArSHAsSAsArHArTTTAkSIGN VERTICAL BAR VIRAMApCIRCULAR ",
   "VIRAMApAVAGRAHAkVOWEL SIGN AAvIwIvUwUvVOCALIC R&R,D46,aMALAYALAM VOWEL SIGN EwEvAI,D4A,aMALAYA",
   "LAM VOWEL SIGN OwOvAUkSIGN VIRAMAkLETTER DOT REPHkSIGN PARA,D54,aMALAYALAM LETTER CHILLU MyYyL",
   "LLkAU LENGTH MARKkFRACTION ONE ONE-HUNDRED-AND-SIXTIETHxFORTIETHtTHREE EIGHTIETHStONE TWENTIET",
   "HyENTHtTHREE TWENTIETHStONE FIFTHkLETTER ARCHAIC IIrVOCALIC RRzLLkVOWEL SIGN VOCALIC L&L,D66,a",
   "MALAYALAM DIGIT ZEROqONEqTWOrHREEqFOURrIVEqSIXrEVENqEIGHTqNINEkNUMBER TENrONE HUNDREDvTHOUSAND",
   "kFRACTION ONE QUARTERxHALFtTHREE QUARTERStONE SIXTEENTHxEIGHTHtTHREE SIXTEENTHSkDATE MARKkLETT",
   "ER CHILLU NNzyRRyLzLyK,D81,aSINHALA SIGN CANDRABINDUnANUSVARAYAnVISARGAYA,D85,aSINHALA LETTER ",
   "AYANNAqAYANNAqEYANNArEYANNApIYANNAqIYANNApUYANNAqUYANNApIRUYANNAsUYANNAqLUYANNAsUYANNApEYANNAq",
   "EYANNApAIYANNApOYANNAqOYANNApAUYANNA,D9A,aSINHALA LETTER ALPAPRAANA KAYANNApMAHAAPRAANA KAYANN",
   "ApALPAPRAANA GAYANNApMAHAAPRAANA GAYANNApKANTAJA NAASIKYAYApSANYAKA GAYANNApALPAPRAANA CAYANNA",
   "pMAHAAPRAANA CAYANNApALPAPRAANA JAYANNApMAHAAPRAANA JAYANNApTAALUJA NAASIKYAYAxSANYOOGA NAAKSI",
   "KYAYApSANYAKA JAYANNApALPAPRAANA TTAYANNApMAHAAPRAANA TTAYANNApALPAPRAANA DDAYANNApMAHAAPRAANA",
   " DDAYANNAqUURDHAJA NAYANNApSANYAKA DDAYANNApALPAPRAANA TAYANNApMAHAAPRAANA TAYANNApALPAPRAANA ",
   "DAYANNApMAHAAPRAANA DAYANNApDANTAJA NAYANNA,DB3,aSINHALA LETTER SANYAKA DAYANNApALPAPRAANA PAY",
   "ANNApMAHAAPRAANA PAYANNApALPAPRAANA BAYANNApMAHAAPRAANA BAYANNArYANNApAMBA BAYANNApYAYANNApRAY",
   "ANNA,DBD,aSINHALA LETTER DANTAJA LAYANNA,DC0,aSINHALA LETTER VAYANNApTAALUJA SAYANNApMUURDHAJA",
   " SAYANNApDANTAJA SAYANNApHAYANNApMUURDHAJA LAYANNApFAYANNA,DCA,aSINHALA SIGN AL-LAKUNA,DCF,aSI",
   "NHALA VOWEL SIGN AELA-PILLAtKETTI AEDA-PILLAtDIGA AEDA-PILLAtKETTI IS-PILLAtDIGA IS-PILLAtKETT",
   "I PAA-PILLA,DD6,aSINHALA VOWEL SIGN DIGA PAA-PILLA,DD8,aSINHALA VOWEL SIGN GAETTA-PILLAtKOMBUV",
   "AtDIGA KOMBUVAtKOMBU DEKAyVA HAA AELA-PILLA(DIGA AELA-PILLA(GAYANUKITTAtGAYANUKITTA,DE6,aSINHA",
   "LA LITH DIGIT ZEROtONEtTWOuHREEtFOURuIVEtSIXuEVENtEIGHTtNINE,DF2,aSINHALA VOWEL SIGN DIGA GAET",
   "TA-PILLA!YANUKITTAiPUNCTUATION KUNDDALIYA,E01,aTHAI CHARACTER KO KAIqHO KHAIvUATvWAIvONtRAKHAN",
   "GpNGO NGUpCHO CHANvINGvANGpSO SOpCHO CHOEpYO YINGpDO CHADApTO PATAKqHO THANtNANGMONTHOtPHUTHAO",
   "pNO NENpDO DEKpTO TAOqHO THUNGvAHANvONGpNO NUpBO BAIMAIpPO PLAqHO PHUNGpFO FApPHO PHANpFO FANp",
   "PHO SAMPHAOpMO MApYO YAKpRO RUAqUpLO LINGqUpWO WAENpSO SALAsRUSIsSUApHO HIPpLO CHULApO ANGpHO ",
   "NOKHUKpPAIYANNOIpSARA ApMAI HAN-AKATpSARA AAvMuIvIuUEwEvvUpPHINTHU,E3F,aTHAI CURRENCY SYMBOL B",
   "AHTgHARACTER SARA EuAEuOuAI MAIMUAN#ALAIpLAKKHANGYAOpMAIYAMOKsTAIKHUs EKtTHOuRItCHATTAWApTHANT",
   "HAKHATpNIKHAHITpYAMAKKANpFONGMANfDIGIT ZEROlONElTWOmHREElFOURmIVElSIXmEVENlEIGHTlNINEfCHARACTE",
   "R ANGKHANKHUpKHOMUT,E81,aLAO LETTER KOmHO SUNG,E84,aLAO LETTER KHO TAM,E86,aLAO LETTER PALI GH",
   "AlNGOlCOlPALI CHAlSO TAM,E8C,aLAO LETTER PALI JHAlNYOlPALI NYAqTTAsHAqDDAsHAqNNAlDOlTOmHO SUNG",
   "pTAMlPALI DHAlNOlBOlPOmHO SUNGlFO TAMlPHO TAMlFO SUNGlPALI BHAlMOlYOlLO LING,EA5,aLAO LETTER L",
   "O LOOT,EA7,aLAO LETTER WOlSANSKRIT SHAvSAmO SUNGlHO SUNGlPALI LLAlOlHO TAMeELLIPSISeVOWEL SIGN",
   " ApMAI KANpAAqMpIqIpYqYpUqUeSIGN PALI VIRAMAeVOWEL SIGN MAI KONeSEMIVOWEL SIGN LOtNYO,EC0,aLAO",
   " VOWEL SIGN EqIpOpAYqI,EC6,aLAO KO LA,EC8,aLAO TONE MAI EKnTHOoInCATAWAeCANCELLATION MARKeNIGG",
   "AHITA,ED0,aLAO DIGIT ZEROkONEkTWOlHREEkFOURlIVEkSIXlEVENkEIGHTkNINE,EDC,aLAO HO NOhMOeLETTER K",
   "HMU GOqNYO,F00,aTIBETAN SYLLABLE OMiMARK GTER YIG MGO TRUNCATED A!-UM RNAM BCAD MA&GTER TSHEG ",
   "MAnINITIAL YIG MGO MDUN MAnCLOSING YIG MGO SGAB MAoARET YIG MGO PHUR SHAD MAnYIG MGO TSHEG SHA",
   "D MAnSBRUL SHADnBSKUR YIG MGOoKA- SHOG YIG MGOnINTERSYLLABIC TSHEGnDELIMITER TSHEG BSTARnSHADn",
   "NYIS SHADnTSHEG SHADnNYIS TSHEG SHADnRIN CHEN SPUNGS SHADoGYA GRAM SHADnCARET -DZUD RTAGS ME L",
   "ONG CANnGTER TSHEGiLOGOTYPE SIGN CHAD RTAGSwLHAG RTAGSiASTROLOGICAL SIGN SGRA GCAN -CHAR RTAGS",
   "!-KHYUD PA!SDONG TSHUGSiSIGN RDEL DKAR GCIGyNYISySUMsNAG GCIGxNYISsDKAR RDEL NAGiDIGIT ZEROoON",
   "EoTWOpHREEoFOURpIVEoSIXpEVENoEIGHToNINEoHALF ONEtTWOuHREEtFOURuIVEtSIXuEVENtEIGHTtNINEtZEROiMA",
   "RK BSDUS RTAGSnNGAS BZUNG NYI ZLAnCARET -DZUD RTAGS BZHI MIG CANnNGAS BZUNG SGOR RTAGSnCHE MGO",
   "nTSA -PHRUnGUG RTAGS GYONzASnANG KHANG GYONzASiSIGN YAR TSHESnMAR TSHESiLETTER KAqHApGAqHApNGA",
   "pCAqHApJA,F49,aTIBETAN LETTER NYApTTArHApDDArHApNNApTAqHApDAqHApNApPAqHApBAqHApMApTSArHApDZArH",
   "ApWApZHAqAp-ApYApRApLApSHAqSAqApHApApKSSApFIXED-FORM RApKKApRRA,F71,aTIBETAN VOWEL SIGN AAtIuI",
   "tUuUtVOCALIC R$R#L$LtEuEtOuOiSIGN RJES SU NGA ROoNAM BCADiVOWEL SIGN REVERSED I%IiSIGN NYI ZLA",
   " NAA DAnSNA LDANiMARK HALANTAnPALUTAiSIGN LCI RTAGSnYANG RTAGSnLCE TSA CANnMCHU CANnGRU CAN RG",
   "YINGSrMED RGYINGSnINVERTED MCHU CANjUBJOINED SIGN LCE TSA CANxMCHU CANxINVERTED MCHU CANsLETTE",
   "R KA!HAzGA!HAzNGAzCA!HAzJA,F99,aTIBETAN SUBJOINED LETTER NYAzTTA#HAzDDA#HAzNNAzTA!HAzDA!HAzNAz",
   "PA!HAzBA!HAzMAzTSA#HAzDZA#HAzWAzZHA!Az-AzYAzRAzLAzSHA!SA!AzHAzAzKSSAzFIXED-FORM WA/YA/RA,FBE,a",
   "TIBETAN KU RU KHAr BZHI MIG CANiCANTILLATION SIGN HEAVY BEAT!LIGHT BEAT!CANG TE-U!SBUB -CHALiS",
   "YMBOL DRIL BUpRDO RJEpPADMA GDANpRDO RJE RGYA GRAMpPHUR PApNOR BUv NYIS -KHYILwGSUM -KHYILwBZH",
   "I -KHYIL,FCE,aTIBETAN SIGN RDEL NAG RDEL DKARwGSUMiMARK BSKA- SHOG GI MGO RGYANnMNYAM YIG GI M",
   "GO RGYANnNYIS TSHEGnINITIAL BRDA RNYING YIG MGO MDUN MAnCLOSING BRDA RNYING YIG MGO SGAB MAaRI",
   "GHT-FACING SVASTI SIGNaLEFT-FACING SVASTI SIGNaRIGHT-FACING SVASTI SIGN WITH DOTSaLEFT-FACING ",
   "SVASTI SIGN WITH DOTSaTIBETAN MARK LEADING MCHAN RTAGSnTRAILING MCHAN RTAGS,1000,aMYANMAR LETT",
   "ER KAqHApGAqHApNGApCAqHApJAqHApNYAqNYApTTArHApDDArHApNNApTAqHApDAqHApNApPAqHApBAqHApMApYApRApL",
   "ApWApSApHApLLApApSHAN ApIqIpUqUpEpMON EpOpAUiVOWEL SIGN TALL AAtAAtIuItUuUtEtAItMON IIxOtE ABO",
   "VEiSIGN ANUSVARAnDOT BELOWnVISARGApRAMAnASATiCONSONANT SIGN MEDIAL YA&RA&WA&HAiLETTER GREAT SA",
   "iDIGIT ZEROoONEoTWOpHREEoFOURpIVEoSIXpEVENoEIGHToNINEiSIGN LITTLE SECTIONnSECTIONjYMBOL LOCATI",
   "VEpCOMPLETEDpAFOREMENTIONEDpGENITIVEiLETTER SHAqSApVOCALIC RyRxLyLiVOWEL SIGN VOCALIC R$R#L$Li",
   "LETTER MON NGAtJHAtBBAvEiCONSONANT SIGN MON MEDIAL NA+MA+LAiLETTER SGAW KAREN SHAiVOWEL SIGN S",
   "GAW KAREN EUiTONE MARK SGAW KAREN HATHI%KE PHOiLETTER WESTERN PWO KAREN THA*PWAiVOWEL SIGN WES",
   "TERN PWO KAREN EU:UEiSIGN WESTERN PWO KAREN TONE-1/2/3/4/5iLETTER EASTERN PWO KAREN NNA*YWA*GH",
   "WAiVOWEL SIGN GEBA KAREN ItKAYAH OEzUzEEiLETTER SHAN KAvHAuGAuCAuZAuNYAuDAuNAuPHAuFAuBAuTHAuHA",
   "iCONSONANT SIGN SHAN MEDIAL WAiVOWEL SIGN SHAN AAyEz ABOVEyFINAL YiSIGN SHAN TONE-2x3x5x6sCOUN",
   "CIL TONE-2(3!EMPHATIC TONEiLETTER RUMAI PALAUNG FAiSIGN RUMAI PALAUNG TONE-5jHAN DIGIT ZEROtON",
   "EtTWOuHREEtFOURuIVEtSIXuEVENtEIGHTtNINEjIGN KHAMTI TONE-1z3iVOWEL SIGN AITON A!IiSYMBOL SHAN O",
   "NEuEXCLAMATIONaGEORGIAN CAPITAL LETTER ANyBANyGANyDONyENyVINyZENyTANyINyKANyLASyMANyNARyONyPAR",
   "yZHARyRAEySANyTARyUNyPHARyKHARyGHANyQARySHINyCHINzANyJILyCILzHARyXANyJHANyHAEzEzIEyWEyHARzOE,1",
   "0C7,aGEORGIAN CAPITAL LETTER YN,10CD,aGEORGIAN CAPITAL LETTER AEN,10D0,aGEORGIAN LETTER ANqBAN",
   "qGANqDONqENqVINqZENqTANqINqKANqLASqMANqNARqONqPARqZHARqRAEqSANqTARqUNqPHARqKHARqGHANqQARqSHINq",
   "CHINrANqJILqCILrHARqXANqJHANqHAErErIEqWEqHARrOEqFIqYNqELIFIqTURNED GANqAINjPARAGRAPH SEPARATOR",
   "aMODIFIER LETTER GEORGIAN NARaGEORGIAN LETTER AENqHARD SIGNqLABIAL SIGNaHANGUL CHOSEONG KIYEOK",
   "qSSANGKIYEOKqNIEUNqTIKEUTqSSANGTIKEUTqRIEULqMIEUMqPIEUPqSSANGPIEUPrIOSrSANGSIOSqIEUNGqCIEUCqSS",
   "ANGCIEUCqCHIEUCHqKHIEUKHqTHIEUTHqPHIEUPHqHIEUHqNIEUN-KIYEOKqSSANGNIEUNqNIEUN-TIKEUTwPIEUPqTIKE",
   "UT-KIYEOKqRIEUL-NIEUNqSSANGRIEULqRIEUL-HIEUHqKAPYEOUNRIEULqMIEUM-PIEUPqKAPYEOUNMIEUMqPIEUP-KIY",
   "EOKwNIEUNwTIKEUTwSIOS!-KIYEOK#TIKEUT#PIEUPxSANGSIOSxIOS-CIEUCwCIEUCxHIEUCHwTHIEUTHwPHIEUPHqKAP",
   "YEOUNPIEUPySSANGPIEUPqSIOS-KIYEOKvNIEUNvTIKEUTvRIEULvMIEUMvPIEUP!-KIYEOKvSSANGSIOSvIEUNGvCIEUC",
   "wHIEUCHvKHIEUKHvTHIEUTHvPHIEUPHvHIEUHqCHITUEUMSIOSzSANGSIOSrEONGCHIEUMSIOS$SANGSIOSqPANSIOSqIE",
   "UNG-KIYEOKwTIKEUTwMIEUMwPIEUPwSIOSwPANSIOSqSSANGIEUNGqIEUNG-CIEUCxHIEUCHwTHIEUTHwPHIEUPHqYESIE",
   "UNGqCIEUC-IEUNGrHITUEUMCIEUCySSANGCIEUCrEONGCHIEUMCIEUC#SSANGCIEUCrHIEUCH-KHIEUKHyHIEUHtTUEUMC",
   "HIEUCHrEONGCHIEUMCHIEUCHqPHIEUPH-PIEUPqKAPYEOUNPHIEUPHqSSANGHIEUHqYEORINHIEUHqKIYEOK-TIKEUTqNI",
   "EUN-SIOSwCIEUCwHIEUHqTIKEUT-RIEULqFILLERhJUNGSEONG FILLERrAsErYAtErEOsrYEOtrOrWAtErOErYOrUrWEO",
   "tsIrYUrEUrYIrIrA-OtUrYA-OuYOrEO-OuUuEUrYEO-OvUrO-EOutYEtOtUrYO-YAwEvEOuOuIrU-AuEtEO-EUtYEtUrYU",
   "-AuEOvuYEOwuUuIrEU-UuEUrYI-UrI-AtYAtOtUtEUtARAEArARAEAw-EOxUxIrSSANGARAEArA-EUrYA-UsEO-YArO-YA",
   "vEiONGSEONG KIYEOKrSSANGKIYEOKrKIYEOK-SIOSrNIEUNw-CIEUCxHIEUHrTIKEUTrRIEULw-KIYEOKxMIEUMxPIEUP",
   "xSIOSxTHIEUTHxPHIEUPHxHIEUHrMIEUMrPIEUPw-SIOSrSIOSsSANGSIOSrIEUNGrCIEUCsHIEUCHrKHIEUKHrTHIEUTH",
   "rPHIEUPHrHIEUHrKIYEOK-RIEULySIOS-KIYEOKrNIEUN-KIYEOKxTIKEUTxSIOSxPANSIOSxTHIEUTHrTIKEUT-KIYEOK",
   "yRIEULrRIEUL-KIYEOK-SIOSxNIEUNxTIKEUT%-HIEUHrSSANGRIEULrRIEUL-MIEUM-KIYEOK%SIOSxPIEUP-SIOS%HIE",
   "UHxKAPYEOUNPIEUPxSSANGSIOSxPANSIOSxKHIEUKHxYEORINHIEUHrMIEUM-KIYEOKxRIEULxPIEUPxSIOSySANGSIOSx",
   "PANSIOSxCHIEUCHxHIEUHrKAPYEOUNMIEUMrPIEUP-RIEULxPHIEUPHxHIEUHrKAPYEOUNPIEUPrSIOS-KIYEOKwTIKEUT",
   "wRIEULwPIEUPrPANSIOSrIEUNG-KIYEOKxSSANGKIYEOKrSSANGIEUNGrIEUNG-KHIEUKHrYESIEUNGz-SIOS!PANSIOSr",
   "PHIEUPH-PIEUPrKAPYEOUNPHIEUPHrHIEUH-NIEUNxRIEULxMIEUMxPIEUPrYEORINHIEUHrKIYEOK-NIEUNyPIEUPyCHI",
   "EUCHyKHIEUKHyHIEUHrSSANGNIEUNaETHIOPIC SYLLABLE HAtUtItAAtEEutOuAsLAtUtItAAtEEutOtWAsHHAuUuIuA",
   "AuEEvuOuWAsMAtUtItAAtEEutOtWAsSZAuUuIuAAuEEvuOuWAsRAtUtItAAtEEutOtWAsSAtUtItAAtEEutOtWAtHAuUuI",
   "uAAuEEvuOuWAsQAtUtItAAtEEutOuAtWA,124A,aETHIOPIC SYLLABLE QWIuAAuEEv,1250,aETHIOPIC SYLLABLE Q",
   "HAuUuIuAAuEEvuO,1258,aETHIOPIC SYLLABLE QHWA,125A,aETHIOPIC SYLLABLE QHWIvAAvEEw,1260,aETHIOPI",
   "C SYLLABLE BAtUtItAAtEEutOtWAsVAtUtItAAtEEutOtWAsTAtUtItAAtEEutOtWAsCAtUtItAAtEEutOtWAsXAtUtIt",
   "AAtEEutOuAtWA,128A,aETHIOPIC SYLLABLE XWIuAAuEEv,1290,aETHIOPIC SYLLABLE NAtUtItAAtEEutOtWAtYA",
   "uUuIuAAuEEvuOuWAsGLOTTAL A!U!I!AA!EE#!O!WAsKAtUtItAAtEEutOuAtWA,12B2,aETHIOPIC SYLLABLE KWIuAA",
   "uEEv,12B8,aETHIOPIC SYLLABLE KXAuUuIuAAuEEvuO,12C0,aETHIOPIC SYLLABLE KXWA,12C2,aETHIOPIC SYLL",
   "ABLE KXWIvAAvEEw,12C8,aETHIOPIC SYLLABLE WAtUtItAAtEEutOuAsPHARYNGEAL A%U%I%AA%EE&%O,12D8,aETH",
   "IOPIC SYLLABLE ZAtUtItAAtEEutOtWAtHAuUuIuAAuEEvuOuWAsYAtUtItAAtEEutOuAsDAtUtItAAtEEutOtWAtDAuU",
   "uIuAAuEEvuOuWAsJAtUtItAAtEEutOtWAsGAtUtItAAtEEutOuAtWA,1312,aETHIOPIC SYLLABLE GWIuAAuEEv,1318",
   ",aETHIOPIC SYLLABLE GGAuUuIuAAuEEvuOuWAAsTHAuUuIuAAuEEvuOuWAsCHAuUuIuAAuEEvuOuWAsPHAuUuIuAAuEE",
   "vuOuWAsTSAuUuIuAAuEEvuOuWAtZAuUuIuAAuEEvuOvAsFAtUtItAAtEEutOtWAsPAtUtItAAtEEutOtWAsRYAsMYAsFYA",
   ",135D,aETHIOPIC COMBINING GEMINATION AND VOWEL LENGTH MARKtVOWEL LENGTH MARKtGEMINATION MARKjS",
   "ECTION MARKjWORDSPACEjFULL STOPjCOMMAjSEMICOLONjCOLONjPREFACE COLONjQUESTION MARKjPARAGRAPH SE",
   "PARATORjDIGIT ONEpTWOqHREEpFOURqIVEpSIXqEVENpEIGHTpNINEjNUMBER TENrWENTYrHIRTYqFORTYrIFTYqSIXT",
   "YrEVENTYqEIGHTYqNINETYqHUNDREDqTEN THOUSAND,1380,aETHIOPIC SYLLABLE SEBATBEIT MWAsMWIuEEvsSEBA",
   "TBEIT BWAsBWIuEEvsSEBATBEIT FWAsFWIuEEvsSEBATBEIT PWAsPWIuEEvjTONAL MARK YIZETuDERETuRIKRIKuSH",
   "ORT RIKRIKuDIFATuKENATuCHIRETuHIDETuDERET-HIDETuKURT,13A0,aCHEROKEE LETTER AqEqIqOqUqVqGAqKAqG",
   "ErIrOrUrVqHArErIrOrUrVqLArErIrOrUrVqMArErIrOrUqNAqHNAqNAHrErIrOrUrVqQUAsEsIsOsUsVqSArrErIrOrUr",
   "VqDAqTAqDEqTEqDIqTIqDOrUrVrLAqTLAsEsIsOsUsVrSAsEsIsOsUsVqWArErIrOrUrVqYArErIrOrUrVqMV,13F8,aCH",
   "EROKEE SMALL LETTER YExIxOxUxVwMV,1400,aCANADIAN SYLLABICS HYPHENtEtAAItIuItOuOtY-CREE OOtCARR",
   "IER EE#ItAuAtWEvST-CREE WEuIuEST-CREE WIuIIuEST-CREE WIIuOuEST-CREE WOuOOuEST-CREE WOOtNASKAPI",
   " WOOtWAuEST-CREE WAuAAuEST-CREE WAAtNASKAPI WAAtAItY-CREE WtGLOTTAL STOPtFINAL ACUTEzGRAVEzBOT",
   "TOM HALF RINGzTOP HALF RINGzRIGHT HALF RING#NGzDOUBLE ACUTE)SHORT VERTICAL STROKESzMIDDLE DOTz",
   "SHORT HORIZONTAL STROKEzPLUSzDOWN TACKtENtINtONtANtPEuAAIuIvIuOvOtY-CREE POOtCARRIER HEE$ItPAv",
   "AuWEtWEST-CREE PWEtPWItWEST-CREE PWItPWIItWEST-CREE PWIItPWOtWEST-CREE PWOtPWOOtWEST-CREE PWOO",
   "tPWAtWEST-CREE PWAtPWAAtWEST-CREE PWAAtY-CREE PWAAtPtWEST-CREE PtCARRIER HtTEuAAIuIvIuOvOtY-CR",
   "EE TOOtCARRIER DEE$ItTAvAuWEtWEST-CREE TWEtTWItWEST-CREE TWItTWIItWEST-CREE TWIItTWOtWEST-CREE",
   " TWOtTWOOtWEST-CREE TWOOtTWAtWEST-CREE TWAtTWAAtWEST-CREE TWAAtNASKAPI TWAAtTuTEvIvOvAtKEuAAIu",
   "IvIuOvOtY-CREE KOOtKAvAuWEtWEST-CREE KWEtKWItWEST-CREE KWItKWIItWEST-CREE KWIItKWOtWEST-CREE K",
   "WOtKWOOtWEST-CREE KWOOtKWAtWEST-CREE KWAtKWAAtWEST-CREE KWAAtNASKAPI KWAAtKuWtSOUTH-SLAVEY KEH",
   "*IH*OH*AHtCEuAAIuIvIuOvOtY-CREE COOtCAvAuWEtWEST-CREE CWEtCWItWEST-CREE CWItCWIItWEST-CREE CWI",
   "ItCWOtWEST-CREE CWOtCWOOtWEST-CREE CWOOtCWAtWEST-CREE CWAtCWAAtWEST-CREE CWAAtNASKAPI CWAAtCtS",
   "AYISI THtMEuAAIuIvIuOvOtY-CREE MOOtMAvAuWEtWEST-CREE MWEtMWItWEST-CREE MWItMWIItWEST-CREE MWII",
   "tMWOtWEST-CREE MWOtMWOOtWEST-CREE MWOOtMWAtWEST-CREE MWAtMWAAtWEST-CREE MWAAtNASKAPI MWAAtMtWE",
   "ST-CREE MtMHtATHAPASCAN MtSAYISI MtNEuAAIuIvIuOvOtY-CREE NOOtNAvAuWEtWEST-CREE NWEtNWAtWEST-CR",
   "EE NWAtNWAAtWEST-CREE NWAAtNASKAPI NWAAutCARRIER NGtNHtLEuAAIuIvIuOvOtY-CREE LOOtLAvAuWEtWEST-",
   "CREE LWEtLWItWEST-CREE LWItLWIItWEST-CREE LWIItLWOtWEST-CREE LWOtLWOOtWEST-CREE LWOOtLWAtWEST-",
   "CREE LWAtLWAAtWEST-CREE LWAAtLtWEST-CREE LtMEDIAL LtSEuAAIuIvIuOvOtY-CREE SOOtSAvAuWEtWEST-CRE",
   "E SWEtSWItWEST-CREE SWItSWIItWEST-CREE SWIItSWOtWEST-CREE SWOtSWOOtWEST-CREE SWOOtSWAtWEST-CRE",
   "E SWAtSWAAtWEST-CREE SWAAtNASKAPI SWAAtStATHAPASCAN StSWtBLACKFOOT StMOOSE-CREE SKtNASKAPI SKW",
   "$-W$PWA$TWA$KWA$CWAtSHEvIwIvOwOvAwAvWEtWEST-CREE SHWEtSHWItWEST-CREE SHWItSHWIItWEST-CREE SHWI",
   "ItSHWOtWEST-CREE SHWOtSHWOOtWEST-CREE SHWOOtSHWAtWEST-CREE SHWAtSHWAAtWEST-CREE SHWAAtSHtYEuAA",
   "IuIvIuOvOu-CREE YOOuAvAuWEtWEST-CREE YWEtYWItWEST-CREE YWItYWIItWEST-CREE YWIItYWOtWEST-CREE Y",
   "WOtYWOOtWEST-CREE YWOOtYWAtWEST-CREE YWAtYWAAtWEST-CREE YWAAtNASKAPI YWAAtYtBIBLE-CREE YtWEST-",
   "CREE YtSAYISI YItREu-CREE REtWEST-CREE LEtRAAIuIvIuOvOtWEST-CREE LOtRAvAtWEST-CREE LAtRWAAtWES",
   "T-CREE RWAAtRtWEST-CREE RtMEDIAL RtFEuAAIuIvIuOvOuAvAuWAAtWEST-CREE FWAAtFtTHEtN-CREE THEtTHIt",
   "N-CREE THItTHIItN-CREE THIItTHOwOvAwAvWAAtWEST-CREE THWAAtTHuTHEwIwOwAwuYEvIvOvAtNUNAVIK HE$I%",
   "I$O%O$A%A$yUT HtHKtQAAIuIvIuOvOuAvAutTLHEwIwOwAtWEST-CREE RE&I&O&AtNGAAIvIwIvOwOvAwAvuNGtSAYIS",
   "I SHE$I$O$AtWOODS-CREE THE)I)O)A)tLHIwIvOwOvAwAvtTH-CREE THE%I&I%O&O%A&A%tAIVILIK BtBLACKFOOT ",
   "E%I%O%A%WE&I&O&A%NE&I&O&A%KE&I&O&AtSAYISI HE#I#O#AtCARRIER GHU%O%E&E%I%A#RU$O$E%E$I$A#WU$O$E%E",
   "$I$A#HWU%O%E&E%I%A#THU%O%E&E%I%A$TU%O%E&E%I%A#PU$O$E%E$I$A$#GU$O$E%E$I$A#KHU%O%E&E%I%A$KU%O%E&",
   "E%I%A%#NU$O$E%E$I$A#MU$O$E%E$I$A#YU$O$E%E$I$A#JUtSAYISI JUtCARRIER JO$E%E$ItSAYISI JItCARRIER ",
   "JA$JU%O%E&E%I%A#LU$O$E%E$I$A#DLU%O%E&E%I%A#LHU%O%E&E%I%A#TLHU&O&E(E&I&A%U%O%E&E%I%A#ZU$O$E%E$I",
   "$A$#INITIAL Z#DZU%O%E&E%I%A#SU$O$E%E$I$A$HU%O%E&E%I%A%#TSU%O%E&E%I%A#CHU%O%E&E%I%A#TTSU&O&E(E&",
   "I&AuHI SIGNtFULL STOPtQAItNGAIuNGIxIwOxOwAxAtWOODS-CREE THWEE*I+I*O+O*A+A&FINAL THtBLACKFOOT W",
   "aOGHAM SPACE MARKgLETTER BEITHnLUISnFEARNnSAILnNIONnUATHnDAIRnTINNEnCOLLoEIRTnMUINnGORTnNGEADA",
   "LnSTRAIFnRUISnAILMnONNnURnEADHADHnIODHADHnEABHADHnORnUILLEANNnIFINnEAMHANCHOLLnPEITHgFEATHER M",
   "ARKgREVERSED FEATHER MARK,16A0,aRUNIC LETTER FEHU FEOH FE FnVnURUZ UR UnYRonWnTHURISAZ THURS T",
   "HORNnETHnANSUZ AnOS OnAC AoESCnLONG-BRANCH-OSS OnSHORT-TWIG-OSS OnOoEoNnRAIDO RAD REID RnKAUNA",
   "nCENnKAUN KnGnENGnGEBO GYFU GoARnWUNJO WYNN WnHAGLAZ HpEGL HnLONG-BRANCH-HAGALL HnSHORT-TWIG-H",
   "AGALL HnNAUDIZ NYD NAUD NnSHORT-TWIG-NAUD NnDOTTED-NnISAZ IS ISS InEnJERAN JnGERnLONG-BRANCH-A",
   "R AEnSHORT-TWIG-AR AnIWAZ EOHnPERTHO PEORTH PnALGIZ EOLHXnSOWILO SoIGEL LONG-BRANCH-SOL SoHORT",
   "-TWIG-SOL SnCnZnTIWAZ TIR TYR TnSHORT-TWIG-TYR TnDnBERKANAN BEORC BJARKAN BnSHORT-TWIG-BJARKAN",
   " BnDOTTED-PnOPEN-PnEHWAZ EH EnMANNAZ MAN MnLONG-BRANCH-MADR MnSHORT-TWIG-MADR MnLAUKAZ LAGU LO",
   "GR LnDOTTED-LnINGWAZqnDAGAZ DAEG DnOTHALAN ETHEL OnEARnIORnCWEORTHoALCoEALCnSTANnLONG-BRANCH-Y",
   "RnSHORT-TWIG-YRnICELANDIC-YRnQnXgSINGLE PUNCTUATIONgMULTIPLE PUNCTUATIONgCROSS PUNCTUATIONgARL",
   "AUG SYMBOLgTVIMADUR SYMBOLgBELGTHOR SYMBOLgLETTER KnSHnOOnFRANKS CASKET OS#IS#EH#AC$ESC,1700,a",
   "TAGALOG LETTER ApIpUpKApGApNGApTApDApNApPApBApMApYApRApLApWApSApHAiVOWEL SIGN ItUiSIGN VIRAMAn",
   "PAMUDPOD,171F,aTAGALOG LETTER ARCHAIC RAaHANUNOO LETTER ApIpUpKApGApNGApTApDApNApPApBApMApYApR",
   "ApLApWApSApHAiVOWEL SIGN ItUiSIGN PAMUDPODaPHILIPPINE SINGLE PUNCTUATIONlDOUBLE PUNCTUATION,17",
   "40,aBUHID LETTER AnInUnKAnGAnNGAnTAnDAnNAnPAnBAnMAnYAnRAnLAnWAnSAnHAgVOWEL SIGN IrU,1760,aTAGB",
   "ANWA LETTER AqIqUqKAqGAqNGAqTAqDAqNAqPAqBAqMAqYA,176E,aTAGBANWA LETTER LAqWAqSA,1772,aTAGBANWA",
   " VOWEL SIGN IuU,1780,aKHMER LETTER KAoHAoOoHOnNGOnCAoHAoOoHOnNYOnDAnTTHAnDOnTTHOnNNOnTAoHAoOoH",
   "OnNOnBAnPHAoOoHOnMOnYOnROnLOnVOnSHAoSOoAnHAnLAnQAgINDEPENDENT VOWEL QAQ!AzI!IzU!K!U#VyRY!YyLY!",
   "YyQEzAIzOO TYPE ONE*TWOzAUgVOWEL INHERENT AQwAmSIGN AArIsIrYsYrUsUsArOErYArIErErAEsIrOOrAUgSIG",
   "N NIKAHITlREAHMUKlYUUKALEAPINTUlMUUSIKATOANlTRIISAPlBANTOClROBATlTOANDAKHIATlKAKABATlAHSDAlSAM",
   "YOK SANNYAlVIRIAMlCOENGlBATHAMASATlKHANlBARIYOOSANlCAMNUC PII KUUHlLEK TOOlBEYYALlPHNAEK MUANl",
   "KOOMUUTgCURRENCY SYMBOL RIELgSIGN AVAKRAHASANYAmTTHACAN,17E0,aKHMER DIGIT ZEROmONEmTWOnHREEmFO",
   "URnIVEmSIXnEVENmEIGHTmNINE,17F0,aKHMER SYMBOL LEK ATTAK SONxMUOYxPIIxBEIyUONxPRAM#-MUOY$PII$BE",
   "I%UON,1800,aMONGOLIAN BIRGAkELLIPSISkCOMMAkFULL STOPkCOLONkFOUR DOTSkTODO SOFT HYPHENkSIBE SYL",
   "LABLE BOUNDARY MARKERkMANCHU COMMArFULL STOPkNIRUGUkFREE VARIATION SELECTOR ONE+TWO.HREEkVOWEL",
   " SEPARATORkFREE VARIATION SELECTOR FOURkDIGIT ZEROqONEqTWOrHREEqFOURrIVEqSIXrEVENqEIGHTqNINE,1",
   "820,aMONGOLIAN LETTER ArErIrOrUrOErUErEErNArANGrBArPArQArGArMArLArSAsHArTArDArCHArJArYArRArWAr",
   "FArKAsHArTSArZArHAArZRArLHArZHIrCHIrTODO LONG VOWEL SIGNwEwIwOwUwOEwUEwANGwBAwPAwQAwGAwMAwTAwD",
   "AwCHAwJAwTSAwYAwWAwKAwGAAwHAAwJIAwNIAwDZArSIBE EwIxYwUExwANGwKAwGAwHAwPAwSHAwTAwDAwJAwFAwGAAwH",
   "AAwTSAwZAwRAAwCHAwZHArMANCHU IyKAyRAyFAyZHArCHA WITH TWO DOTS,1880,aMONGOLIAN LETTER ALI GALI ",
   "ANUSVARA ONE!VISARGA ONE!DAMARU!UBADAMA!INVERTED UBADAMA!BALUDA!THREE BALUDA!A!I!KA!NGA!CA!TTA",
   "$HA!DDA!NNA!TA!DA!PA#HA!SSA!ZHA#A!AHrTODO ALI GALI TA(ZHArMANCHU ALI GALI GHA*NGA*CA*JHA*TTA*D",
   "DHA*TA*DHA*SSA*CYA*ZHA+ArALI GALI HALF U(YArMANCHU ALI GALI BHArALI GALI DAGALGArMANCHU ALI GA",
   "LI LHA,18B0,aCANADIAN SYLLABICS OYtAYuAYtWAYtPOYuAYuWOYtTAYtKAYuWAYtMAYtNOYuAYtLAYtSOYuAYuHOYv",
   "AYvWOYtYOYuAYtRAYtNWItOJIBWAY NWItNWIItOJIBWAY NWIItNWOtOJIBWAY NWOtNWOOtOJIBWAY NWOOtRWEEvIwI",
   "vOwOvAtOJIBWAY P#T#K#C#M#N#S$HtEASTERN WtWESTERN WtFINAL SMALL RINGzRAISED DOTtR-CREE RWEtWEST",
   "-CREE LOO&AAtTHWEwAuTHWEwOOwAAuLHWEwOOtSAYISI SHWE$OO!HOOtCARRIER GWU#DENE GEE#GAA$WAtSAYISI J",
   "UUtCARRIER JWAtBEAVER DENE L(RtCARRIER DENTAL S,1900,aLIMBU VOWEL-CARRIER LETTERgLETTER KAoHAn",
   "GAoHAnNGAnCAoHAnJAoHAnYANnTAoHAnDAoHAnNAnPAoHAnBAoHAnMAnYAnRAnLAnWAnSHAoSAoAnHAnGYANnTRA,1920,",
   "aLIMBU VOWEL SIGN ArIrUrEErAIrOOrAUrErOgSUBJOINED LETTER YAxRAxWA,1930,aLIMBU SMALL LETTER KAt",
   "NGAtANUSVARAtTAtNAtPAtMAtRAtLAhIGN MUKPHRENGlKEMPHRENGlSA-I,1940,aLIMBU SIGN LOO,1944,aLIMBU E",
   "XCLAMATION MARKgQUESTION MARKgDIGIT ZEROmONEmTWOnHREEmFOURnIVEmSIXnEVENmEIGHTmNINEaTAI LE LETT",
   "ER KAoXAoNGAoTSAoSAoYAoTApHAoLAoPApHAoMAoFAoVAoHAoQAoKHAoTSHAoNAoAoIoEEpHoUoOOpoUEoEoAUEpI,197",
   "0,aTAI LE LETTER TONE-2t3t4t5t6,1980,aNEW TAI LUE LETTER HIGH QAtLOW QAtHIGH KAyXAyNGAtLOW KAx",
   "XAxNGAtHIGH TSAySAyYAtLOW TSAxSAxYAtHIGH TAzHAyNAtLOW TAyHAxNAtHIGH PAzHAyMAtLOW PAyHAxMAtHIGH",
   " FAyVAyLAtLOW FAxVAxLAtHIGH HAyDAyBAtLOW HAxDAxBAtHIGH KVAyXVAtLOW KVAxXVAtHIGH SUAtLOW SUA,19",
   "B0,aNEW TAI LUE VOWEL SIGN VOWEL SHORTENERxAAxIIxUyUxExAExOyAxUExAYyAYxUYxOYyAYxUEYxIYmLETTER ",
   "FINAL VzNG!zMzKzDzBmTONE MARK-1w2,19D0,aNEW TAI LUE DIGIT ZEROsONEsTWOtHREEsFOURtIVEsSIXtEVENs",
   "EIGHTsNINEmTHAM DIGIT ONE,19DE,aNEW TAI LUE SIGN LAEuVaKHMER SYMBOL PATHAMASATnMUOY KOETnPII K",
   "OETnBEI KOEToUON KOETnPRAM KOETr-MUOY KOETsPII KOETsBEI KOETtUON KOETnDAP KOETq-MUOY KOETrPII ",
   "KOETrBEI KOETsUON KOETrPRAM KOETnTUTEYASATnMUOY ROCnPII ROCnBEI ROCoUON ROCnPRAM ROCr-MUOY ROC",
   "sPII ROCsBEI ROCtUON ROCnDAP ROCq-MUOY ROCrPII ROCrBEI ROCsUON ROCrPRAM ROCaBUGINESE LETTER KA",
   "qGAqNGAsKAqPAqBAqMArPAqTAqDAqNArRAqCAqJAqNYAsCAqYAqRAqLAqVAqSAqAqHAjVOWEL SIGN IuUuEuOuAE,1A1E",
   ",aBUGINESE PALLAWAjEND OF SECTIONaTAI THAM LETTER HIGH KAwHAwXAqLOW KAvXAvHAqNGAqHIGH CAwHAqLO",
   "W CAuSAuCHAqNYAqRATAqHIGH RATHAqDAqLOW RATHAqRANAqHIGH TAwHAqLOW TAvHAqNAqBAqHIGH PAwHAvFAqLOW",
   " PAuFAuPHAqMAqLOW YAqHIGH YAqRArUEqLArUEqWAqHIGH SHAwSAwAvHAqLLAqAqLOW HAqIrIqUrUqEEqOOqLAEqGR",
   "EAT SAjCONSONANT SIGN MEDIAL RA(LAyLA TANG LAIjSIGN MAI KANG LAIjCONSONANT SIGN FINAL NGAyLOW ",
   "PAyHIGH RATHA OR LOW PAyMAyBAySA,1A60,aTAI THAM SIGN SAKOTjVOWEL SIGN AuMAI SATuAAuTALL AAuIvI",
   "uUEvUEvvUuOvA BELOWvYuEuAEuOOuAIuTHAM AIuOA ABOVEjSIGN MAI KANGoTONE-1t2oKHUEN TONE-3z4z5oRA H",
   "AAMoMAI SAMoKHUEN-LUE KARAN,1A7F,aTAI THAM COMBINING CRYPTOGRAMMIC DOTjHORA DIGIT ZEROuONEuTWO",
   "vHREEuFOURvIVEuSIXvEVENuEIGHTuNINE,1A90,aTAI THAM THAM DIGIT ZEROuONEuTWOvHREEuFOURvIVEuSIXvEV",
   "ENuEIGHTuNINE,1AA0,aTAI THAM SIGN WIANGtWAAKoSAWANoKEOWoHOYoDOKMAIoREVERSED ROTATED RANAoMAI Y",
   "AMOKoKAANsKUUoSATKAANvKUUoHANGoCAANG,1AB0,aCOMBINING DOUBLED CIRCUMFLEX ACCENTlIAERESIS-RINGkI",
   "NFINITYkDOWNWARDS ARROWkTRIPLE DOTkX-X BELOWkWIGGLY LINE BELOWkOPEN MARK BELOWkDOUBLE OPEN MAR",
   "K BELOWkLIGHT CENTRALIZATION STROKE BELOWkSTRONG CENTRALIZATION STROKE BELOWkPARENTHESES ABOVE",
   "kDOUBLE PARENTHESES ABOVEkPARENTHESES BELOWwOVERLAYkLATIN SMALL LETTER W BELOW%TURNED W BELOWl",
   "EFT PARENTHESIS ABOVE LEFTkRIGHT PARENTHESIS ABOVE RIGHTkLEFT PARENTHESIS BELOW LEFTkRIGHT PAR",
   "ENTHESIS BELOW RIGHTkSQUARE BRACKETS ABOVEkNUMBER SIGN ABOVEkINVERTED DOUBLE ARCH ABOVEkPLUS S",
   "IGN ABOVEkDOUBLE PLUS SIGN ABOVE#BELOWkTRIPLE ACUTE ACCENTkLATIN SMALL LETTER INSULAR G:R:T,1B",
   "00,aBALINESE SIGN ULU RICEMsCANDRAoCECEKoSURANGoBISAHjLETTER AKARAv TEDUNGqIKARAv TEDUNGqUKARA",
   "v TEDUNGqRA REPAx TEDUNGqLA LENGAy TEDUNGqEKARAqAIKARAqOKARAv TEDUNGqKAs MAHAPRANAqGAs GORAqNG",
   "AqCAs LACAqJAs JERAqNYAqTA LATIKtMURDA MAHAPRANAqDA MURDA ALPAPRANAzMAHAPRANAqNA RAMBATqTAs TA",
   "WAqDAs MADUqNAqPAs KAPALqBAs KEMBANGqMAqYAqRAqLAqWAqSA SAGAvPAsqHAjSIGN REREKANjVOWEL SIGN TED",
   "UNGuULUx SARIuSUKUy ILUTuRA REPA# TEDUNGuLA LENGA$ TEDUNGuTALING! REPA#TEDUNG#REPA TEDUNGuPEPE",
   "Tz TEDUNGjADEG ADEGjLETTER KAF SASAKrHOT SASAKqTZIR SASAKqEF SASAKqVE SASAKqZAL SASAKqASYURA S",
   "ASAKrRCHAIC JNYA,1B50,aBALINESE DIGIT ZEROpONEpTWOqHREEpFOURqIVEpSIXqEVENpEIGHTpNINEjPANTIlMAD",
   "AjWINDUjCARIK PAMUNGKAHpSIKIpPARERENjPAMENENGjMUSICAL SYMBOL DONGzENGzUNGzANG$ SURANGzINGzAENG",
   "zEUNGzAING!NG GEDEyCOMBINING TEGEH+ENDEP+KEMPUL;LI+JEGOGAN+KEMPUL WITH JEGOGAN;LI WITH JEGOGAN",
   "+BENDE+GONGyRIGHT-HAND OPEN DUG>AG.CLOSED TUK@AKyLEFT-HAND OPEN PANG=UNG+CLOSED PLAK@UK+OPEN P",
   "INGjPANTI LANTANGlMADA LANTANG,1B80,aSUNDANESE SIGN PANYECEKsGLAYARtWISADkLETTER ArIrUrAErOrEs",
   "UrKArQArGArNGArCArJArZArNYArTArDArNArPArFArVArBArMArYArRArLArWArSArXArHAkCONSONANT SIGN PAMING",
   "KAL#NYAKRA%IKUkVOWEL SIGN PANGHULUyYUKUyAELAENGyOLONGxMEPETxNEULEUNGkSIGN PAMAAEHpVIRAMAkCONSO",
   "NANT SIGN PASANGAN MA+WAkLETTER KHArSYAkDIGIT ZEROqONEqTWOrHREEqFOURrIVEqSIXrEVENqEIGHTqNINEkA",
   "VAGRAHAkLETTER REUrLEUrBHArFINAL KxMaBATAK LETTER AnSIMALUNGUN AnHAnSIMALUNGUN HAnMANDAILING H",
   "AnBAnKARO BAnPAnSIMALUNGUN PAnNAnMANDAILING NAnWAnSIMALUNGUN WAnPAKPAK WAnGAnSIMALUNGUN GAnJAn",
   "DAnRAnSIMALUNGUN RAnMAnSIMALUNGUN MAoOUTHERN TAnNORTHERN TAnSAoIMALUNGUN SAnMANDAILING SAnYAnS",
   "IMALUNGUN YAnNGAnLAnSIMALUNGUN LAnNYAnCAnNDAnMBAnInUgSIGN TOMPIgVOWEL SIGN ErPAKPAK ErEErIrKAR",
   "O IrOrKARO OrUs FOR SIMALUNGUN SAgCONSONANT SIGN NGvHgPANGOLATjONGONAN,1BFC,aBATAK SYMBOL BIND",
   "U NA METEKtPINARBORAStJUDULtPANGOLATaLEPCHA LETTER KApLApHAoGApLAoNGAoCApHAoJAoNYAoTApHAoDAoNA",
   "oPApLApHAoFApLAoBApLAoMApLAoTSAqHAoDZAoYAoRAoLAoHApLAoVAoSApHAoWAoAhSUBJOINED LETTER YAyRAhVOW",
   "EL SIGN AAsIsOtOsUtUsEhCONSONANT SIGN KwMwLwNwPwRwTwNYIN-DOwKANGhSIGN RANmNUKTA,1C3B,aLEPCHA P",
   "UNCTUATION TA-ROLtNYET THYOOM TA-ROLtCER-WAtTSHOOK CER-WAzhDIGIT ZEROnONEnTWOoHREEnFOURoIVEnSI",
   "XoEVENnEIGHTnNINE,1C4D,aLEPCHA LETTER TTAqHAoDDAaOL CHIKI DIGIT ZEROpONEpTWOqHREEpFOURqIVEpSIX",
   "qEVENpEIGHTpNINEjLETTER LAqATrGrNGrLqLAAqAAKsJsMsWqLIqISrHrNYrRqLUqUCrDrNNrYqLEqEPrDDrNrRRqLOq",
   "OTTrBrVrHjMU TTUDDAGjGAAHLAA TTUDDAAGjMU-GAAHLAA TTUDDAAGjRELAAjPHAARKAAjAHADjPUNCTUATION MUCA",
   "ADvDOUBLE MUCAADaCYRILLIC SMALL LETTER ROUNDED VEwLONG-LEGGED DEwNARROW OwWIDE ESwTALL TExHREE",
   "-LEGGED TExALL HARD SIGN#YATwUNBLENDED UK,1C90,aGEORGIAN MTAVRULI CAPITAL LETTER AN*BAN*GAN*DO",
   "N*EN*VIN*ZEN*TAN*IN*KAN*LAS*MAN*NAR*ON*PAR*ZHAR*RAE*SAN*TAR*UN*PHAR*KHAR*GHAN*QAR*SHIN*CHIN+AN",
   "*JIL*CIL+HAR*XAN*JHAN*HAE+E+IE*WE*HAR+OE*FI*YN*ELIFI*TURNED GAN*AIN,1CBD,aGEORGIAN MTAVRULI CA",
   "PITAL LETTER AEN*HARD SIGN*LABIAL SIGNaSUNDANESE PUNCTUATION BINDU SURYA$PANGLONG%URNAMA$CAKRA",
   "$LEU SATANGA$KA SATANGA$DA SATANGA$BA SATANGA,1CD0,aVEDIC TONE KARSHANAlSHARAlPRENKHAgSIGN NIH",
   "SHVASAlYAJURVEDIC MIDLINE SVARITAgTONE YAJURVEDIC AGGRAVATED INDEPENDENT SVARITAwINDEPENDENT S",
   "VARITAwKATHAKA INDEPENDENT SVARITAlCANDRA BELOWlYAJURVEDIC KATHAKA INDEPENDENT SVARITA SCHROED",
   "ERlDOUBLE SVARITAlTRIPLE SVARITAlKATHAKA ANUDATTAlDOT BELOWlTWO DOTS BELOWmHREE DOTS BELOWlRIG",
   "VEDIC KASHMIRI INDEPENDENT SVARITAlATHARVAVEDIC INDEPENDENT SVARITAgSIGN VISARGA SVARITAtUDATT",
   "AlREVERSED VISARGA UDATTAlVISARGA ANUDATTAlREVERSED VISARGA ANUDATTAlVISARGA UDATTA WITH TAILt",
   "ANUDATTA WITH TAILlANUSVARA ANTARGOMUKHAuBAHIRGOMUKHAuVAMAGOMUKHA( WITH TAILlTIRYAKlHEXIFORM L",
   "ONG ANUSVARAlLONG ANUSVARAlRTHANG LONG ANUSVARAlANUSVARA UBHAYATO MUKHAmRDHAVISARGAlROTATED AR",
   "DHAVISARGAgTONE CANDRA ABOVEgSIGN JIHVAMULIYAlUPADHMANIYAlATIKRAMAgTONE RING ABOVElDOUBLE RING",
   " ABOVEgSIGN DOUBLE ANUSVARA ANTARGOMUKHA,1D00,aLATIN LETTER SMALL CAPITAL A$EgSMALL LETTER TUR",
   "NED AEgLETTER SMALL CAPITAL BARRED B#C#D#ETH$gSMALL LETTER TURNED OPEN E!IgLETTER SMALL CAPITA",
   "L J#K#L WITH STROKE#M#REVERSED N#O$PEN OgSMALL LETTER SIDEWAYS O%PEN O% WITH STROKEtTURNED OEg",
   "LETTER SMALL CAPITAL OUgSMALL LETTER TOP HALF OtBOTTOM HALF OgLETTER SMALL CAPITAL P#REVERSED ",
   "R#TURNED R$#UgSMALL LETTER SIDEWAYS U$DIAERESIZED U$TURNED MgLETTER SMALL CAPITAL V#W#Z#EZHnVO",
   "ICED LARYNGEAL SPIRANTnAINaGREEK LETTER SMALL CAPITAL GAMMA#LAMDA#PI#RHO#PSIaCYRILLIC LETTER S",
   "MALL CAPITAL ELaMODIFIER LETTER CAPITAL AzEyBzARRED ByDyEyREVERSED EyGyHyIyJyKyLyMyNyREVERSED ",
   "NyOzUyPyRyTyUyWqSMALL AwTURNED AwALPHAwTURNED AEwBwDwEwSCHWAwOPEN EwTURNED OPEN EwGwTURNED IwK",
   "wMwENGwOxPEN OwTOP HALF OwBOTTOM HALF OwPwTwUwSIDEWAYS UwTURNED MwVwAINwBETAwGREEK GAMMAwDELTA",
   "wGREEK PHIwCHIaLATIN SUBSCRIPT SMALL LETTER I%R%U%VaGREEK SUBSCRIPT SMALL LETTER BETA%GAMMA%RH",
   "O%PHI%CHIaLATIN SMALL LETTER UEtB WITH MIDDLE TILDEtD WITH MIDDLE TILDEtF WITH MIDDLE TILDEtM ",
   "WITH MIDDLE TILDEtN WITH MIDDLE TILDEtP WITH MIDDLE TILDEtR WITH MIDDLE TILDE!FISHHOOK AND MID",
   "DLE TILDEtS WITH MIDDLE TILDEtT WITH MIDDLE TILDEtZ WITH MIDDLE TILDEtTURNED GaMODIFIER LETTER",
   " CYRILLIC ENaLATIN SMALL LETTER INSULAR GtTH WITH STRIKETHROUGHmCAPITAL LETTER I WITH STROKEmL",
   "ETTER IOTA WITH STROKEtP WITH STROKEmCAPITAL LETTER U WITH STROKEmLETTER UPSILON WITH STROKEtB",
   " WITH PALATAL HOOKtD WITH PALATAL HOOKtF WITH PALATAL HOOKtG WITH PALATAL HOOKtK WITH PALATAL ",
   "HOOKtL WITH PALATAL HOOKtM WITH PALATAL HOOKtN WITH PALATAL HOOKtP WITH PALATAL HOOKtR WITH PA",
   "LATAL HOOKtS WITH PALATAL HOOKtESH WITH PALATAL HOOKtV WITH PALATAL HOOKtX WITH PALATAL HOOKtZ",
   " WITH PALATAL HOOKtA WITH RETROFLEX HOOKuLPHA WITH RETROFLEX HOOKtD WITH HOOK AND TAILtE WITH ",
   "RETROFLEX HOOKtOPEN E WITH RETROFLEX HOOKtREVERSED OPEN E WITH RETROFLEX HOOKtSCHWA WITH RETRO",
   "FLEX HOOKtI WITH RETROFLEX HOOKtOPEN O WITH RETROFLEX HOOKtESH WITH RETROFLEX HOOKtU WITH RETR",
   "OFLEX HOOKtEZH WITH RETROFLEX HOOKaMODIFIER LETTER SMALL TURNED ALPHAwCx WITH CURLwETHwREVERSE",
   "D OPEN EwFwDOTLESS J WITH STROKEwSCRIPT GwTURNED HwI WITH STROKExOTAwCAPITAL I( WITH STROKEwJ ",
   "WITH CROSSED-TAILwL WITH RETROFLEX HOOK%PALATAL HOOKwCAPITAL LwM WITH HOOKwTURNED M WITH LONG ",
   "LEGwN WITH LEFT HOOK%RETROFLEX HOOKwCAPITAL NwBARRED OwPHIwS WITH HOOKwESHwT WITH PALATAL HOOK",
   "wU BARxPSILONwCAPITAL UwV WITH HOOKwTURNED VwZx WITH RETROFLEX HOOK%CURLwEZHwTHETAaCOMBINING D",
   "OTTED GRAVE ACCENTrACUTE ACCENTkSNAKE BELOWlUSPENSION MARKkMACRON-ACUTEkGRAVE-MACRONkMACRON-GR",
   "AVEkACUTE-MACRONkGRAVE-ACUTE-GRAVEkACUTE-GRAVE-ACUTEkLATIN SMALL LETTER R BELOWkBREVE-MACRONkM",
   "ACRON-BREVEkDOUBLE CIRCUMFLEX ABOVEkOGONEK ABOVEkZIGZAG BELOWkIS BELOWkUR ABOVElS ABOVEkLATIN ",
   "SMALL LETTER FLATTENED OPEN A ABOVE%AE&O&V%C CEDILLA%INSULAR D%ETH%GqLETTER SMALL CAPITAL GqSM",
   "ALL LETTER K%LqLETTER SMALL CAPITAL L:MqSMALL LETTER NqLETTER SMALL CAPITAL N:RqSMALL LETTER R",
   " ROTUNDA%S%LONG S%Z%ALPHA%B&ETA%SCHWA%F%L WITH DOUBLE MIDDLE TILDE%O WITH LIGHT CENTRALIZATION",
   " STROKE%P%ESH%U WITH LIGHT CENTRALIZATION STROKE%W%A WITH DIAERESIS%O WITH DIAERESIS%U WITH DI",
   "AERESISkUP TACK ABOVEkKAVYKA ABOVE RIGHTxLEFTkDOT ABOVE LEFTkWIDE INVERTED BRIDGE BELOWkDOT BE",
   "LOW LEFTlELETION MARKlOUBLE INVERTED BREVE BELOWkALMOST EQUAL TO BELOWkLEFT ARROWHEAD ABOVEkRI",
   "GHT ARROWHEAD AND DOWN ARROWHEAD BELOWaLATIN CAPITAL LETTER A WITH RING BELOWgSMALL LETTER A W",
   "ITH RING BELOWgCAPITAL LETTER B WITH DOT ABOVEgSMALL LETTER B WITH DOT ABOVEgCAPITAL LETTER B ",
   "WITH DOT BELOWgSMALL LETTER B WITH DOT BELOWgCAPITAL LETTER B WITH LINE BELOWgSMALL LETTER B W",
   "ITH LINE BELOWgCAPITAL LETTER C WITH CEDILLA AND ACUTEgSMALL LETTER C WITH CEDILLA AND ACUTEgC",
   "APITAL LETTER D WITH DOT ABOVEgSMALL LETTER D WITH DOT ABOVEgCAPITAL LETTER D WITH DOT BELOWgS",
   "MALL LETTER D WITH DOT BELOWgCAPITAL LETTER D WITH LINE BELOWgSMALL LETTER D WITH LINE BELOWgC",
   "APITAL LETTER D WITH CEDILLAgSMALL LETTER D WITH CEDILLAgCAPITAL LETTER D WITH CIRCUMFLEX BELO",
   "WgSMALL LETTER D WITH CIRCUMFLEX BELOWgCAPITAL LETTER E WITH MACRON AND GRAVEgSMALL LETTER E W",
   "ITH MACRON AND GRAVEgCAPITAL LETTER E WITH MACRON AND ACUTEgSMALL LETTER E WITH MACRON AND ACU",
   "TEgCAPITAL LETTER E WITH CIRCUMFLEX BELOWgSMALL LETTER E WITH CIRCUMFLEX BELOWgCAPITAL LETTER ",
   "E WITH TILDE BELOWgSMALL LETTER E WITH TILDE BELOWgCAPITAL LETTER E WITH CEDILLA AND BREVEgSMA",
   "LL LETTER E WITH CEDILLA AND BREVEgCAPITAL LETTER F WITH DOT ABOVEgSMALL LETTER F WITH DOT ABO",
   "VEgCAPITAL LETTER G WITH MACRONgSMALL LETTER G WITH MACRONgCAPITAL LETTER H WITH DOT ABOVEgSMA",
   "LL LETTER H WITH DOT ABOVEgCAPITAL LETTER H WITH DOT BELOWgSMALL LETTER H WITH DOT BELOWgCAPIT",
   "AL LETTER H WITH DIAERESISgSMALL LETTER H WITH DIAERESISgCAPITAL LETTER H WITH CEDILLAgSMALL L",
   "ETTER H WITH CEDILLAgCAPITAL LETTER H WITH BREVE BELOWgSMALL LETTER H WITH BREVE BELOWgCAPITAL",
   " LETTER I WITH TILDE BELOWgSMALL LETTER I WITH TILDE BELOWgCAPITAL LETTER I WITH DIAERESIS AND",
   " ACUTEgSMALL LETTER I WITH DIAERESIS AND ACUTEgCAPITAL LETTER K WITH ACUTEgSMALL LETTER K WITH",
   " ACUTEgCAPITAL LETTER K WITH DOT BELOWgSMALL LETTER K WITH DOT BELOWgCAPITAL LETTER K WITH LIN",
   "E BELOWgSMALL LETTER K WITH LINE BELOWgCAPITAL LETTER L WITH DOT BELOWgSMALL LETTER L WITH DOT",
   " BELOWgCAPITAL LETTER L WITH DOT BELOW AND MACRONgSMALL LETTER L WITH DOT BELOW AND MACRONgCAP",
   "ITAL LETTER L WITH LINE BELOWgSMALL LETTER L WITH LINE BELOWgCAPITAL LETTER L WITH CIRCUMFLEX ",
   "BELOWgSMALL LETTER L WITH CIRCUMFLEX BELOWgCAPITAL LETTER M WITH ACUTEgSMALL LETTER M WITH ACU",
   "TEgCAPITAL LETTER M WITH DOT ABOVEgSMALL LETTER M WITH DOT ABOVEgCAPITAL LETTER M WITH DOT BEL",
   "OWgSMALL LETTER M WITH DOT BELOWgCAPITAL LETTER N WITH DOT ABOVEgSMALL LETTER N WITH DOT ABOVE",
   "gCAPITAL LETTER N WITH DOT BELOWgSMALL LETTER N WITH DOT BELOWgCAPITAL LETTER N WITH LINE BELO",
   "WgSMALL LETTER N WITH LINE BELOWgCAPITAL LETTER N WITH CIRCUMFLEX BELOWgSMALL LETTER N WITH CI",
   "RCUMFLEX BELOWgCAPITAL LETTER O WITH TILDE AND ACUTEgSMALL LETTER O WITH TILDE AND ACUTEgCAPIT",
   "AL LETTER O WITH TILDE AND DIAERESISgSMALL LETTER O WITH TILDE AND DIAERESISgCAPITAL LETTER O ",
   "WITH MACRON AND GRAVEgSMALL LETTER O WITH MACRON AND GRAVEgCAPITAL LETTER O WITH MACRON AND AC",
   "UTEgSMALL LETTER O WITH MACRON AND ACUTEgCAPITAL LETTER P WITH ACUTEgSMALL LETTER P WITH ACUTE",
   "gCAPITAL LETTER P WITH DOT ABOVEgSMALL LETTER P WITH DOT ABOVEgCAPITAL LETTER R WITH DOT ABOVE",
   "gSMALL LETTER R WITH DOT ABOVEgCAPITAL LETTER R WITH DOT BELOWgSMALL LETTER R WITH DOT BELOWgC",
   "APITAL LETTER R WITH DOT BELOW AND MACRONgSMALL LETTER R WITH DOT BELOW AND MACRONgCAPITAL LET",
   "TER R WITH LINE BELOWgSMALL LETTER R WITH LINE BELOWgCAPITAL LETTER S WITH DOT ABOVEgSMALL LET",
   "TER S WITH DOT ABOVEgCAPITAL LETTER S WITH DOT BELOWgSMALL LETTER S WITH DOT BELOWgCAPITAL LET",
   "TER S WITH ACUTE AND DOT ABOVEgSMALL LETTER S WITH ACUTE AND DOT ABOVEgCAPITAL LETTER S WITH C",
   "ARON AND DOT ABOVEgSMALL LETTER S WITH CARON AND DOT ABOVEgCAPITAL LETTER S WITH DOT BELOW AND",
   " DOT ABOVEgSMALL LETTER S WITH DOT BELOW AND DOT ABOVEgCAPITAL LETTER T WITH DOT ABOVEgSMALL L",
   "ETTER T WITH DOT ABOVEgCAPITAL LETTER T WITH DOT BELOWgSMALL LETTER T WITH DOT BELOWgCAPITAL L",
   "ETTER T WITH LINE BELOWgSMALL LETTER T WITH LINE BELOWgCAPITAL LETTER T WITH CIRCUMFLEX BELOWg",
   "SMALL LETTER T WITH CIRCUMFLEX BELOWgCAPITAL LETTER U WITH DIAERESIS BELOWgSMALL LETTER U WITH",
   " DIAERESIS BELOWgCAPITAL LETTER U WITH TILDE BELOWgSMALL LETTER U WITH TILDE BELOWgCAPITAL LET",
   "TER U WITH CIRCUMFLEX BELOWgSMALL LETTER U WITH CIRCUMFLEX BELOWgCAPITAL LETTER U WITH TILDE A",
   "ND ACUTEgSMALL LETTER U WITH TILDE AND ACUTEgCAPITAL LETTER U WITH MACRON AND DIAERESISgSMALL ",
   "LETTER U WITH MACRON AND DIAERESISgCAPITAL LETTER V WITH TILDEgSMALL LETTER V WITH TILDEgCAPIT",
   "AL LETTER V WITH DOT BELOWgSMALL LETTER V WITH DOT BELOWgCAPITAL LETTER W WITH GRAVEgSMALL LET",
   "TER W WITH GRAVEgCAPITAL LETTER W WITH ACUTEgSMALL LETTER W WITH ACUTEgCAPITAL LETTER W WITH D",
   "IAERESISgSMALL LETTER W WITH DIAERESISgCAPITAL LETTER W WITH DOT ABOVEgSMALL LETTER W WITH DOT",
   " ABOVEgCAPITAL LETTER W WITH DOT BELOWgSMALL LETTER W WITH DOT BELOWgCAPITAL LETTER X WITH DOT",
   " ABOVEgSMALL LETTER X WITH DOT ABOVEgCAPITAL LETTER X WITH DIAERESISgSMALL LETTER X WITH DIAER",
   "ESISgCAPITAL LETTER Y WITH DOT ABOVEgSMALL LETTER Y WITH DOT ABOVEgCAPITAL LETTER Z WITH CIRCU",
   "MFLEXgSMALL LETTER Z WITH CIRCUMFLEXgCAPITAL LETTER Z WITH DOT BELOWgSMALL LETTER Z WITH DOT B",
   "ELOWgCAPITAL LETTER Z WITH LINE BELOWgSMALL LETTER Z WITH LINE BELOWtH WITH LINE BELOWtT WITH ",
   "DIAERESIStW WITH RING ABOVEtY WITH RING ABOVEtA WITH RIGHT HALF RINGtLONG S WITH DOT ABOVE)IAG",
   "ONAL STROKE(HIGH STROKEgCAPITAL LETTER SHARP SgSMALL LETTER DELTAgCAPITAL LETTER A WITH DOT BE",
   "LOWgSMALL LETTER A WITH DOT BELOWgCAPITAL LETTER A WITH HOOK ABOVEgSMALL LETTER A WITH HOOK AB",
   "OVEgCAPITAL LETTER A WITH CIRCUMFLEX AND ACUTEgSMALL LETTER A WITH CIRCUMFLEX AND ACUTEgCAPITA",
   "L LETTER A WITH CIRCUMFLEX AND GRAVEgSMALL LETTER A WITH CIRCUMFLEX AND GRAVEgCAPITAL LETTER A",
   " WITH CIRCUMFLEX AND HOOK ABOVEgSMALL LETTER A WITH CIRCUMFLEX AND HOOK ABOVEgCAPITAL LETTER A",
   " WITH CIRCUMFLEX AND TILDEgSMALL LETTER A WITH CIRCUMFLEX AND TILDEgCAPITAL LETTER A WITH CIRC",
   "UMFLEX AND DOT BELOWgSMALL LETTER A WITH CIRCUMFLEX AND DOT BELOWgCAPITAL LETTER A WITH BREVE ",
   "AND ACUTEgSMALL LETTER A WITH BREVE AND ACUTEgCAPITAL LETTER A WITH BREVE AND GRAVEgSMALL LETT",
   "ER A WITH BREVE AND GRAVEgCAPITAL LETTER A WITH BREVE AND HOOK ABOVEgSMALL LETTER A WITH BREVE",
   " AND HOOK ABOVEgCAPITAL LETTER A WITH BREVE AND TILDEgSMALL LETTER A WITH BREVE AND TILDEgCAPI",
   "TAL LETTER A WITH BREVE AND DOT BELOWgSMALL LETTER A WITH BREVE AND DOT BELOWgCAPITAL LETTER E",
   " WITH DOT BELOWgSMALL LETTER E WITH DOT BELOWgCAPITAL LETTER E WITH HOOK ABOVEgSMALL LETTER E ",
   "WITH HOOK ABOVEgCAPITAL LETTER E WITH TILDEgSMALL LETTER E WITH TILDEgCAPITAL LETTER E WITH CI",
   "RCUMFLEX AND ACUTEgSMALL LETTER E WITH CIRCUMFLEX AND ACUTEgCAPITAL LETTER E WITH CIRCUMFLEX A",
   "ND GRAVEgSMALL LETTER E WITH CIRCUMFLEX AND GRAVEgCAPITAL LETTER E WITH CIRCUMFLEX AND HOOK AB",
   "OVEgSMALL LETTER E WITH CIRCUMFLEX AND HOOK ABOVEgCAPITAL LETTER E WITH CIRCUMFLEX AND TILDEgS",
   "MALL LETTER E WITH CIRCUMFLEX AND TILDEgCAPITAL LETTER E WITH CIRCUMFLEX AND DOT BELOWgSMALL L",
   "ETTER E WITH CIRCUMFLEX AND DOT BELOWgCAPITAL LETTER I WITH HOOK ABOVEgSMALL LETTER I WITH HOO",
   "K ABOVEgCAPITAL LETTER I WITH DOT BELOWgSMALL LETTER I WITH DOT BELOWgCAPITAL LETTER O WITH DO",
   "T BELOWgSMALL LETTER O WITH DOT BELOWgCAPITAL LETTER O WITH HOOK ABOVEgSMALL LETTER O WITH HOO",
   "K ABOVEgCAPITAL LETTER O WITH CIRCUMFLEX AND ACUTEgSMALL LETTER O WITH CIRCUMFLEX AND ACUTEgCA",
   "PITAL LETTER O WITH CIRCUMFLEX AND GRAVEgSMALL LETTER O WITH CIRCUMFLEX AND GRAVEgCAPITAL LETT",
   "ER O WITH CIRCUMFLEX AND HOOK ABOVEgSMALL LETTER O WITH CIRCUMFLEX AND HOOK ABOVEgCAPITAL LETT",
   "ER O WITH CIRCUMFLEX AND TILDEgSMALL LETTER O WITH CIRCUMFLEX AND TILDEgCAPITAL LETTER O WITH ",
   "CIRCUMFLEX AND DOT BELOWgSMALL LETTER O WITH CIRCUMFLEX AND DOT BELOWgCAPITAL LETTER O WITH HO",
   "RN AND ACUTEgSMALL LETTER O WITH HORN AND ACUTEgCAPITAL LETTER O WITH HORN AND GRAVEgSMALL LET",
   "TER O WITH HORN AND GRAVEgCAPITAL LETTER O WITH HORN AND HOOK ABOVEgSMALL LETTER O WITH HORN A",
   "ND HOOK ABOVEgCAPITAL LETTER O WITH HORN AND TILDEgSMALL LETTER O WITH HORN AND TILDEgCAPITAL ",
   "LETTER O WITH HORN AND DOT BELOWgSMALL LETTER O WITH HORN AND DOT BELOWgCAPITAL LETTER U WITH ",
   "DOT BELOWgSMALL LETTER U WITH DOT BELOWgCAPITAL LETTER U WITH HOOK ABOVEgSMALL LETTER U WITH H",
   "OOK ABOVEgCAPITAL LETTER U WITH HORN AND ACUTEgSMALL LETTER U WITH HORN AND ACUTEgCAPITAL LETT",
   "ER U WITH HORN AND GRAVEgSMALL LETTER U WITH HORN AND GRAVEgCAPITAL LETTER U WITH HORN AND HOO",
   "K ABOVEgSMALL LETTER U WITH HORN AND HOOK ABOVEgCAPITAL LETTER U WITH HORN AND TILDEgSMALL LET",
   "TER U WITH HORN AND TILDEgCAPITAL LETTER U WITH HORN AND DOT BELOWgSMALL LETTER U WITH HORN AN",
   "D DOT BELOWgCAPITAL LETTER Y WITH GRAVEgSMALL LETTER Y WITH GRAVEgCAPITAL LETTER Y WITH DOT BE",
   "LOWgSMALL LETTER Y WITH DOT BELOWgCAPITAL LETTER Y WITH HOOK ABOVEgSMALL LETTER Y WITH HOOK AB",
   "OVEgCAPITAL LETTER Y WITH TILDEgSMALL LETTER Y WITH TILDEgCAPITAL LETTER MIDDLE-WELSH LLgSMALL",
   " LETTER MIDDLE-WELSH LLgCAPITAL LETTER MIDDLE-WELSH VgSMALL LETTER MIDDLE-WELSH VgCAPITAL LETT",
   "ER Y WITH LOOPgSMALL LETTER Y WITH LOOPaGREEK SMALL LETTER ALPHA WITH PSILI&DASIA&PSILI AND VA",
   "RIA&DASIA AND VARIA&PSILI AND OXIA&DASIA AND OXIA&PSILI AND PERISPOMENI&DASIA AND PERISPOMENIg",
   "CAPITAL LETTER ALPHA WITH PSILI)DASIA)PSILI AND VARIA)DASIA AND VARIA)PSILI AND OXIA)DASIA AND",
   " OXIA)PSILI AND PERISPOMENI)DASIA AND PERISPOMENIgSMALL LETTER EPSILON WITH PSILI)DASIA)PSILI ",
   "AND VARIA)DASIA AND VARIA)PSILI AND OXIA)DASIA AND OXIA,1F18,aGREEK CAPITAL LETTER EPSILON WIT",
   "H PSILI+DASIA+PSILI AND VARIA+DASIA AND VARIA+PSILI AND OXIA+DASIA AND OXIA,1F20,aGREEK SMALL ",
   "LETTER ETA WITH PSILI$DASIA$PSILI AND VARIA$DASIA AND VARIA$PSILI AND OXIA$DASIA AND OXIA$PSIL",
   "I AND PERISPOMENI$DASIA AND PERISPOMENIgCAPITAL LETTER ETA WITH PSILI&DASIA&PSILI AND VARIA&DA",
   "SIA AND VARIA&PSILI AND OXIA&DASIA AND OXIA&PSILI AND PERISPOMENI&DASIA AND PERISPOMENIgSMALL ",
   "LETTER IOTA WITH PSILI%DASIA%PSILI AND VARIA%DASIA AND VARIA%PSILI AND OXIA%DASIA AND OXIA%PSI",
   "LI AND PERISPOMENI%DASIA AND PERISPOMENIgCAPITAL LETTER IOTA WITH PSILI(DASIA(PSILI AND VARIA(",
   "DASIA AND VARIA(PSILI AND OXIA(DASIA AND OXIA(PSILI AND PERISPOMENI(DASIA AND PERISPOMENIgSMAL",
   "L LETTER OMICRON WITH PSILI)DASIA)PSILI AND VARIA)DASIA AND VARIA)PSILI AND OXIA)DASIA AND OXI",
   "A,1F48,aGREEK CAPITAL LETTER OMICRON WITH PSILI+DASIA+PSILI AND VARIA+DASIA AND VARIA+PSILI AN",
   "D OXIA+DASIA AND OXIA,1F50,aGREEK SMALL LETTER UPSILON WITH PSILI)DASIA)PSILI AND VARIA)DASIA ",
   "AND VARIA)PSILI AND OXIA)DASIA AND OXIA)PSILI AND PERISPOMENI)DASIA AND PERISPOMENI,1F59,aGREE",
   "K CAPITAL LETTER UPSILON WITH DASIA,1F5B,aGREEK CAPITAL LETTER UPSILON WITH DASIA AND VARIA,1F",
   "5D,aGREEK CAPITAL LETTER UPSILON WITH DASIA AND OXIA,1F5F,aGREEK CAPITAL LETTER UPSILON WITH D",
   "ASIA AND PERISPOMENIgSMALL LETTER OMEGA WITH PSILI&DASIA&PSILI AND VARIA&DASIA AND VARIA&PSILI",
   " AND OXIA&DASIA AND OXIA&PSILI AND PERISPOMENI&DASIA AND PERISPOMENIgCAPITAL LETTER OMEGA WITH",
   " PSILI)DASIA)PSILI AND VARIA)DASIA AND VARIA)PSILI AND OXIA)DASIA AND OXIA)PSILI AND PERISPOME",
   "NI)DASIA AND PERISPOMENIgSMALL LETTER ALPHA WITH VARIA&OXIAtEPSILON WITH VARIA)OXIAuTA WITH VA",
   "RIA$OXIAtIOTA WITH VARIA%OXIAtOMICRON WITH VARIA)OXIAtUPSILON WITH VARIA)OXIAtOMEGA WITH VARIA",
   "&OXIA,1F80,aGREEK SMALL LETTER ALPHA WITH PSILI AND YPOGEGRAMMENI&DASIA AND YPOGEGRAMMENI&PSIL",
   "I AND VARIA AND YPOGEGRAMMENI&DASIA AND VARIA AND YPOGEGRAMMENI&PSILI AND OXIA AND YPOGEGRAMME",
   "NI&DASIA AND OXIA AND YPOGEGRAMMENI&PSILI AND PERISPOMENI AND YPOGEGRAMMENI&DASIA AND PERISPOM",
   "ENI AND YPOGEGRAMMENIgCAPITAL LETTER ALPHA WITH PSILI AND PROSGEGRAMMENI)DASIA AND PROSGEGRAMM",
   "ENI)PSILI AND VARIA AND PROSGEGRAMMENI)DASIA AND VARIA AND PROSGEGRAMMENI)PSILI AND OXIA AND P",
   "ROSGEGRAMMENI)DASIA AND OXIA AND PROSGEGRAMMENI)PSILI AND PERISPOMENI AND PROSGEGRAMMENI)DASIA",
   " AND PERISPOMENI AND PROSGEGRAMMENIgSMALL LETTER ETA WITH PSILI AND YPOGEGRAMMENI$DASIA AND YP",
   "OGEGRAMMENI$PSILI AND VARIA AND YPOGEGRAMMENI$DASIA AND VARIA AND YPOGEGRAMMENI$PSILI AND OXIA",
   " AND YPOGEGRAMMENI$DASIA AND OXIA AND YPOGEGRAMMENI$PSILI AND PERISPOMENI AND YPOGEGRAMMENI$DA",
   "SIA AND PERISPOMENI AND YPOGEGRAMMENIgCAPITAL LETTER ETA WITH PSILI AND PROSGEGRAMMENI&DASIA A",
   "ND PROSGEGRAMMENI&PSILI AND VARIA AND PROSGEGRAMMENI&DASIA AND VARIA AND PROSGEGRAMMENI&PSILI ",
   "AND OXIA AND PROSGEGRAMMENI&DASIA AND OXIA AND PROSGEGRAMMENI&PSILI AND PERISPOMENI AND PROSGE",
   "GRAMMENI&DASIA AND PERISPOMENI AND PROSGEGRAMMENIgSMALL LETTER OMEGA WITH PSILI AND YPOGEGRAMM",
   "ENI&DASIA AND YPOGEGRAMMENI&PSILI AND VARIA AND YPOGEGRAMMENI&DASIA AND VARIA AND YPOGEGRAMMEN",
   "I&PSILI AND OXIA AND YPOGEGRAMMENI&DASIA AND OXIA AND YPOGEGRAMMENI&PSILI AND PERISPOMENI AND ",
   "YPOGEGRAMMENI&DASIA AND PERISPOMENI AND YPOGEGRAMMENIgCAPITAL LETTER OMEGA WITH PSILI AND PROS",
   "GEGRAMMENI)DASIA AND PROSGEGRAMMENI)PSILI AND VARIA AND PROSGEGRAMMENI)DASIA AND VARIA AND PRO",
   "SGEGRAMMENI)PSILI AND OXIA AND PROSGEGRAMMENI)DASIA AND OXIA AND PROSGEGRAMMENI)PSILI AND PERI",
   "SPOMENI AND PROSGEGRAMMENI)DASIA AND PERISPOMENI AND PROSGEGRAMMENIgSMALL LETTER ALPHA WITH VR",
   "ACHY&MACRON&VARIA AND YPOGEGRAMMENI&YPOGEGRAMMENI&OXIA AND YPOGEGRAMMENI,1FB6,aGREEK SMALL LET",
   "TER ALPHA WITH PERISPOMENI> AND YPOGEGRAMMENIgCAPITAL LETTER ALPHA WITH VRACHY)MACRON)VARIA)OX",
   "IA)PROSGEGRAMMENIgKORONISgPROSGEGRAMMENIhSILIhERISPOMENIgDIALYTIKA AND PERISPOMENIgSMALL LETTE",
   "R ETA WITH VARIA AND YPOGEGRAMMENI$YPOGEGRAMMENI$OXIA AND YPOGEGRAMMENI,1FC6,aGREEK SMALL LETT",
   "ER ETA WITH PERISPOMENI< AND YPOGEGRAMMENIgCAPITAL LETTER EPSILON WITH VARIA+OXIAwTA WITH VARI",
   "A&OXIA&PROSGEGRAMMENIgPSILI AND VARIAqOXIAqPERISPOMENIgSMALL LETTER IOTA WITH VRACHY%MACRON%DI",
   "ALYTIKA AND VARIA@OXIA,1FD6,aGREEK SMALL LETTER IOTA WITH PERISPOMENI%DIALYTIKA AND PERISPOMEN",
   "IgCAPITAL LETTER IOTA WITH VRACHY(MACRON(VARIA(OXIA,1FDD,aGREEK DASIA AND VARIAqOXIAqPERISPOME",
   "NIgSMALL LETTER UPSILON WITH VRACHY)MACRON)DIALYTIKA AND VARIA^OXIAtRHO WITH PSILI$DASIAtUPSIL",
   "ON WITH PERISPOMENI)DIALYTIKA AND PERISPOMENIgCAPITAL LETTER UPSILON WITH VRACHY+MACRON+VARIA+",
   "OXIAvRHO WITH DASIAgDIALYTIKA AND VARIAuOXIAgVARIA,1FF2,aGREEK SMALL LETTER OMEGA WITH VARIA A",
   "ND YPOGEGRAMMENI&YPOGEGRAMMENI&OXIA AND YPOGEGRAMMENI,1FF6,aGREEK SMALL LETTER OMEGA WITH PERI",
   "SPOMENI> AND YPOGEGRAMMENIgCAPITAL LETTER OMICRON WITH VARIA+OXIAxEGA WITH VARIA)OXIA)PROSGEGR",
   "AMMENIgOXIAgDASIA"]

end LiteralEnum.Text.CharacterName
