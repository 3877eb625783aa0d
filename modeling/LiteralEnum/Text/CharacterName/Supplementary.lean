/-! Names of the characters of the rest of the supplementary planes, in the compressed
form that `CharacterName` reads.
-/

namespace LiteralEnum.Text.CharacterName

def supplementaryNames : List String :=
  [",1B000,aKATAKANA LETTER ARCHAIC EaHIRAGANA LETTER ARCHAIC YEbENTAIGANA LETTER A-1u2u3uWOsI-1u2",
   "u3u4sU-1u2u3u4u5sE-2u3u4u5u6sO-1u2u3sKA-1v2v3v4v5v6v7v8v9v10w1vKEtI-1v2v3v4v5v6v7v8tU-1v2v3v4v",
   "5v6v7tE-1v2v3v4v5v6tO-1v2v3vKIsSA-1v2v3v4v5v6v7v8tI-1v2v3v4v5v6tU-1v2v3v4v5v6v7v8tE-1v2v3v4v5t",
   "O-1v2v3v4v5v6v7sTA-1v2v3v4tI-1v2v3v4v5v6v7tU-1v2v3v4vTOtE-1v2v3v4v5v6v7v8v9tO-1v2v3v4v5v6vRAsN",
   "A-1v2v3v4v5v6v7v8v9tI-1v2v3v4v5v6v7vTEtU-1v2v3tE-1v2v3v4v5v6vKOtO-1v2v3v4v5sHA-1v2v3v4v5v6v7v8",
   "v9v10w1tI-1v2v3v4v5v6v7tU-1v2v3tE-1v2v3v4v5v6v7tO-1v2v3v4v5v6v7v8sMA-1v2v3v4v5v6v7tI-1v2v3v4v5",
   "v6v7tU-1v2v3v4tE-1v2vMAtO-1v2v3v4v5v6sYA-1v2v3v4v5vYOtU-1v2v3v4tO-1v2v3v4v5v6sRA-1v2v3v4tI-1v2",
   "v3v4v5v6v7tU-1v2v3v4v5v6tE-1v2v3v4tO-1v2v3v4v5v6sWA-1v2v3v4v5tI-1v2v3v4v5tE-1v2v3v4tO-1v2v3v4v",
   "5v6v7sN-MU-MO-1!2bIRAGANA LETTER ARCHAIC WUaKATAKANA LETTER ARCHAIC YIzEyWU,1B150,aHIRAGANA LE",
   "TTER SMALL WIxExO,1B164,aKATAKANA LETTER SMALL WIxExOwN,1BC00,aDUPLOYAN LETTER HqXqPqTqFqKqLqB",
   "qDqVqGqRqP NqD SqF NqK MqR SqTHqSLOAN DHqDHqKKqSLOAN JqHLqLHqRHqMqNqJqSqM NqN MqJ MqS JqM WITH",
   " DOTqN WITH DOTqJ WITH DOT!S INSIDE AND ABOVEqS WITH DOT! BELOWqM SqN SqJ SqS SqM N SqN M SqJ ",
   "M SqS J SqJ S WITH DOTsNt SqS Tt RsPt RqT SsR SqWrHr RqS NsMqK R SqG R SqS Kt RqAqSLOAN OWqOAr",
   "qAOUqIqEqIEqSHORT IqUIqEEqSLOAN EHqROMANIAN IqSLOAN EEqLONG IqYEqUqEUqXWqU NqLONG UqROMANIAN U",
   "qUHqSLOAN UqOOHrWrUqWArOrIrEIrOWqNASAL UwOwIwAqPERNIN ANyMqSLOAN ENwANwONqVOCALIC M,1BC70,aDUP",
   "LOYAN AFFIX LEFT HORIZONTAL SECANTpMID HORIZONTAL SECANTpRIGHT HORIZONTAL SECANTpLOW VERTICAL ",
   "SECANTpMID VERTICAL SECANTpHIGH VERTICAL SECANTpATTACHED SECANTyLEFT-TO-RIGHT SECANTyTANGENT!I",
   "LyE HOOKyI HOOKyTANGENT HOOK,1BC80,aDUPLOYAN AFFIX HIGH ACUTEuTIGHT ACUTEuGRAVEuLONG GRAVEuDOT",
   "uCIRCLEuLINEuWAVEuVERTICAL,1BC90,aDUPLOYAN AFFIX LOW ACUTEtTIGHT ACUTEtGRAVEtLONG GRAVEtDOTtCI",
   "RCLEtLINEtWAVEtVERTICALtARROW,1BC9C,aDUPLOYAN SIGN O WITH CROSSjTHICK LETTER SELECTORjDOUBLE M",
   "ARKjPUNCTUATION CHINOOK FULL STOPaSHORTHAND FORMAT LETTER OVERLAPrCONTINUING OVERLAPrDOWN STEP",
   "rUP STEP,1CF00,aZNAMENNY COMBINING MARK GORAZDO NIZKO S KRYZHEM ON LEFTyNIZKO S KRYZHEM ON LEF",
   "TyTSATA ON LEFTyGORAZDO NIZKO ON LEFTyNIZKO ON LEFTySREDNE ON LEFTyMALO POVYSHE ON LEFTyPOVYSH",
   "E ON LEFTyVYSOKO ON LEFTyMALO POVYSHE S KHOKHLOM ON LEFTyPOVYSHE S KHOKHLOM ON LEFTyVYSOKO S K",
   "HOKHLOM ON LEFTyGORAZDO NIZKO S KRYZHEM ON RIGHTyNIZKO S KRYZHEM ON RIGHTyTSATA ON RIGHTyGORAZ",
   "DO NIZKO ON RIGHTyNIZKO ON RIGHTySREDNE ON RIGHTyMALO POVYSHE ON RIGHTyPOVYSHE ON RIGHTyVYSOKO",
   " ON RIGHTyMALO POVYSHE S KHOKHLOM ON RIGHTyPOVYSHE S KHOKHLOM ON RIGHTyVYSOKO S KHOKHLOM ON RI",
   "GHTyTSATA S KRYZHEMyMALO POVYSHE S KRYZHEMySTRANNO MALO POVYSHEyPOVYSHE S KRYZHEM*TRANNOyVYSOK",
   "O S KRYZHEMyMALO POVYSHE STRANNOyGORAZDO VYSOKOyZELOyONyRAVNOyTIKHAYAyBORZAYAyUDARKAyPODVERTKA",
   "yLOMKAyKUPNAYAzACHKAyZEVOKySKOBAyRAZSEKAyKRYZH ON LEFT,1CF30,aZNAMENNY COMBINING TONAL RANGE M",
   "ARK MRACHNO/SVETLO/TRESVETLOtMARK ZADERZHKAyDEMESTVENNY ZADERZHKAyOTSECHKAyPODCHASHIE+ WITH VE",
   "RTICAL STROKEyCHASHKA( POLNAYAyOBLACHKOySOROCHYA NOZHKAyTOCHKAyDVOETOCHIEtATTACHING VERTICAL O",
   "METtMARK CURVED OMETyKRYZHtLOWER TONAL RANGE INDICATORjPRIZNAK MODIFIER LEVEL-2)3!DIRECTION FL",
   "IP!KRYZH!ROG,1CF50,aZNAMENNY NEUME KRYUKu TIKHYpPARAKLITpDVA V CHELNUpKLYUCHpZANOZHEKpSTOPITSA",
   "x S OCHKOMpPEREVODKAy NEPOSTOYANNAYApSTOPITSA WITH SOROCHYA NOZHKApCHELYUSTKApPALKApZAPYATAYAp",
   "GOLUBCHIK BORZYzTIKHYzMRACHNYzSVETLYzTRESVETLYpVRAKHIYA PROSTAYAyMRACHNAYAySVETLAYAyTRESVETLAY",
   "AyKLYUCHEVAYA PROSTAYA/MRACHNAYA/SVETLAYA/TRESVETLAYApDOUBLE ZAPYATAYApREVERSED CHELYUSTKApDER",
   "BITSApKHAMILOpCHASHKApPODCHASHIEpSKAMEYTSA MRACHNAYAzSVETLAYAzTRESVETLAYA!IKHAYApDEMESTVENNY K",
   "LYUCHpSKAMEYTSA KLYUCHEVAYA SVETLAYA)NEPOSTOYANNAYA)VAYA TIKHAYAzDVOECHELNAYA PROSTAYA;SVETLAY",
   "A;NEPOSTOYANNAYA;KLYUCHEVAYAqLOZHITIEy S ZAPYATOYzZAKRYTOEzS KRYZHEMpKRYZHpROGpFITApKOBYLApZME",
   "YTSApSTATYAv S ZAPYATOYyKRYZHEMyZAPYATOY I KRYZHEMyKRYZHEM I ZAPYATOYwZAKRYTAYA( S ZAPYATOYwS ",
   "ROGOMyDVUMYA ZAPYATYMIyZAPYATOY I PODCHASHIEMpPOLKULIZMYpSTATYA NEPOSTOYANNAYArRELA PROSTAYAwM",
   "RACHNOTIKHAYAwKRYZHEVAYAwPOLUPOVODNAYAyVODNAYAwNEPOSTOYANNAYAwKLYUCHEPOVODNAYA%NEPOSTOYANNAYAw",
   "TIKHAYA PUTNAYAwDVOECHELNAYA(OKRYZHEVAYA)POVODNAYA(AYA KLYUCHEVAYA(OPOVODNAYA KLYUCHEVAYAwGROM",
   "NAYA WITH SINGLE ZAPYATAYA!OPOVODNAYA WITH SINGLE ZAPYATAYA!NAYA!OPOVODNAYA/ WITH DOUBLE ZAPYA",
   "TAYA#KRYZHEVAYA: POVODNAYApMECHIKv POVODNYwKLYUCHEVOY%POVODNY%NEPOSTOYANNYpSTRELA TRYASOGLASNA",
   "YA$POVODNAYA$STRELNAYApOSOKAu SVETLAYAvTRESVETLAYAvKRYUKOVAYA SVETLAYAwLYUCHEVAYA SVETLAYA*NEP",
   "OSTOYANNAYApSTRELA KRYUKOVAYA) POVODNAYA*GROMNAYA WITH SINGLE ZAPYATAYA:OPOVODNAYA WITH SINGLE",
   " ZAPYATAYA:NAYA:OPOVODNAYA_ WITH DOUBLE ZAPYATAYA;KRYZHEVAYA| POVODNAYA*TRYASKApKUFISMApOBLAKO",
   "pDUDApNEMKApPAUK,1D000,aBYZANTINE MUSICAL SYMBOL PSILIzDASEIAzPERISPOMENIzOXEIA EKFONITIKON(DI",
   "PLIzVAREIA EKFONITIKON)DIPLIzKATHISTIzSYRMATIKIzPARAKLITIKIzYPOKRISIS+ DIPLIzKREMASTIzAPESO EK",
   "FONITIKONzEXO EKFONITIKONzTELEIAzKENTIMATAzAPOSTROFOS. DIPLIzSYNEVMAzTHITAzOLIGON ARCHAIONzGOR",
   "GON ARCHAIONzPSILONzCHAMILONzVATHYzISON ARCHAIONzKENTIMA ARCHAION)TA ARCHAIONzSAXIMATAzPARICHO",
   "NzSTAVROS APODEXIAzOXEIAI ARCHAIONzVAREIAI ARCHAIONzAPODERMA ARCHAION$THEMAzKLASMAzREVMAzPIASM",
   "A ARCHAIONzTINAGMAzANATRICHISMAzSEISMA!YNAGMA ARCHAION*META STAVROUzOYRANISMA ARCHAIONzTHEMAzL",
   "EMOIzDYOzTRIA!ESSERAzKRATIMATAzAPESO EXO NEOzFTHORA ARCHAIONzIMIFTHORAzTROMIKON ARCHAIONzKATAV",
   "A TROMIKONzPELASTON!SIFISTONzKONTEVMAzCHOREVMA ARCHAIONzRAPISMAzPARAKALESMA ARCHAION&LITIKI AR",
   "CHAIONzICHADINzNANAzPETASMAzKONTEVMA ALLOzTROMIKON ALLOzSTRAGGISMATAzGRONTHISMATAzISON NEOzOLI",
   "GON NEO!XEIA NEOzPETASTIzKOUFISMAzPETASTOKOUFISMAzKRATIMOKOUFISMAzPELASTON NEOzKENTIMATA NEO A",
   "NO) NEO ANOzYPSILIzAPOSTROFOS NEO+I SYNDESMOS NEOzYPORROIzKRATIMOYPORROONzELAFRONzCHAMILIzMIKR",
   "ON ISONzVAREIA NEOzPIASMA NEO!SIFISTON NEOzOMALONzANTIKENOMAzLYGISMAzPARAKLITIKI NEO&ALESMA NE",
   "OzETERON PARAKALESMAzKYLISMAzANTIKENOKYLISMAzTROMIKON NEOzEKSTREPTONzSYNAGMA NEO#RMAzCHOREVMA ",
   "NEOzEPEGERMAzSEISMA NEOzXIRON KLASMAzTROMIKOPSIFISTONzPSIFISTOLYGISMAzTROMIKOLYGISMA)PARAKALES",
   "MAzPSIFISTOPARAKALESMAzTROMIKOSYNAGMAzPSIFISTOSYNAGMAzGORGOSYNTHETONzARGOSYNTHETONzETERON ARGO",
   "SYNTHETONzOYRANISMA NEOzTHEMATISMOS ESO;XO& APLOUN$S KAI APOTHESzKATAVASMAzENDOFONONzYFEN KATO",
   "&ANOzSTAVROSzKLASMA ANOzDIPLI ARCHAIONzKRATIMA ARCHAION+LLO*NEOzAPODERMA NEO#LIzDIPLIzTRIPLI!E",
   "TRAPLIzKORONISzLEIMMA ENOS CHRONOU)DYO CHRONON)TRION CHRONON*ESSARON CHRONON)IMISEOS CHRONOUzG",
   "ORGON NEO ANO)PARESTIGMENON ARISTERA^DEXIAzDIGORGON* PARESTIGMENON ARISTERA KATO~RISTERA ANO|D",
   "EXIAzTRIGORGONzARGONzIMIDIARGONzDIARGONzAGOGI POLI ARGI(ARGOTERI+I(METRIA*SI(GORGI.OTERI(POLI ",
   "GORGIzMARTYRIA PROTOS ICHOS+ALLI PROTOS ICHOS+DEYTEROS ICHOS+ALLI DEYTEROS ICHOS+TRITOS ICHOS:",
   "FONIAS.ETARTOS ICHOS@LEGETOS ICHOS+LEGETOS ICHOS+PLAGIOS ICHOSzISAKIA TELOUS ICHIMATOSzAPOSTRO",
   "FOI TELOUS ICHIMATOSzFANEROSIS TETRAFONIAS.MONOFONIAS.DIFONIASzMARTYRIA VARYS ICHOS+PROTOVARYS",
   " ICHOS.LAGIOS TETARTOS ICHOSzGORTHMIKON N APLOUN;DIPLOUNzENARXIS KAI FTHORA VOUzIMIFONON%THORO",
   "NzFTHORA ARCHAION DEYTEROU ICHOU)DIATONIKI PA?NANA)NAOS ICHOS)DIATONIKI DI)SKLIRON DIATONON DI",
   ")DIATONIKI KE?ZO?NI KATO]ANO)MALAKON CHROMA DIFONIAS_MONOFONIAS!HTORA SKLIRON CHROMA VASIS!THO",
   "RA SKLIRON CHROMA SYNAFI)NENANOzCHROA ZYGOS(KLITON(SPATHIzFTHORA I YFESIS TETARTIMORION)ENARMO",
   "NIOS ANTIFONIAzYFESIS TRITIMORIONzDIESIS TRITIMORION*ETARTIMORION)APLI DYO DODEKATA)MONOGRAMMO",
   "S TESSERA DODEKATA)DIGRAMMOS EX DODEKATA)TRIGRAMMOS OKTO DODEKATAzYFESIS APLI DYO DODEKATA)MON",
   "OGRAMMOS TESSERA DODEKATA)DIGRAMMOS EX DODEKATA)TRIGRAMMOS OKTO DODEKATAzGENIKI DIESIS)YFESISz",
   "DIASTOLI APLI MIKRI=EGALI+DIPLI+THESEOSzSIMANSIS THESEOS> DISIMOU?TRISIMOU@ETRASIMOU+ARSEOS= D",
   "ISIMOU>TRISIMOU?ETRASIMOUzDIGRAMMA GG#FTOGGOS OUzSTIGMAzARKTIKO PA*VOU*GA*DI*KE*ZO*NIzKENTIMAT",
   "A NEO MESO) NEO MESO)TA NEO KATO) NEO KATO!LASMA KATOzGORGON NEO KATO,1D100,aMUSICAL SYMBOL SI",
   "NGLE BARLINEpDOUBLE BARLINEpFINAL BARLINEpREVERSE FINAL BARLINEpDASHED BARLINEpSHORT BARLINEpL",
   "EFT REPEAT SIGNpRIGHT REPEAT SIGNqEPEAT DOTSpDAL SEGNOr CAPOpSEGNOpCODApREPEATED FIGURE-1(2(3p",
   "FERMATAw BELOWpBREATH MARKpCAESURApBRACEtKETpONE-LINE STAFFpTWO-LINE STAFFqHREE-LINE STAFFpFOU",
   "R-LINE STAFFqIVE-LINE STAFFpSIX-LINE STAFFtSTRING FRETBOARDpFOUR-STRING FRETBOARDpG CLEFv OTTA",
   "VA ALTA%BASSApC CLEFpF CLEFv OTTAVA ALTA%BASSApDRUM CLEF-1z2,1D129,aMUSICAL SYMBOL MULTIPLE ME",
   "ASURE RESTpDOUBLE SHARPwFLATpFLAT UPuDOWNpNATURAL UPxDOWNpSHARP UPvDOWNpQUARTER TONE SHARP$FLA",
   "TpCOMMON TIMEqUT TIMEpOTTAVA ALTAwBASSApQUINDICESIMA ALTA$BASSApMULTI RESTpWHOLE RESTpHALF RES",
   "TpQUARTER RESTpEIGHTH RESTpSIXTEENTH RESTpTHIRTY-SECOND RESTpSIXTY-FOURTH RESTpONE HUNDRED TWE",
   "NTY-EIGHTH RESTpX NOTEHEADpPLUS NOTEHEADpCIRCLE X NOTEHEADpSQUARE NOTEHEAD WHITE(BLACKpTRIANGL",
   "E NOTEHEAD UP WHITE/BLACK*LEFT WHITE;BLACK*RIGHT WHITE<BLACK*DOWN WHITE;BLACK*UP RIGHT WHITE?B",
   "LACKpMOON NOTEHEAD WHITE%BLACKpTRIANGLE-ROUND NOTEHEAD DOWN WHITE[BLACKpPARENTHESIS NOTEHEADpV",
   "OID NOTEHEADpNOTEHEAD BLACKqULL NOTEHEADpCLUSTER NOTEHEAD WHITE)BLACKpBREVEpWHOLE NOTEpHALF NO",
   "TEpQUARTER NOTEpEIGHTH NOTEpSIXTEENTH NOTEpTHIRTY-SECOND NOTEpSIXTY-FOURTH NOTEpONE HUNDRED TW",
   "ENTY-EIGHTH NOTEpCOMBINING STEM!PRECHGESANG STEMzTREMOLO-1*2*3pFINGERED TREMOLO-1)2)3pCOMBININ",
   "G AUGMENTATION DOTzFLAG-1&2&3&4&5pBEGIN BEAMpEND BEAMpBEGIN TIEpEND TIEpBEGIN SLURpEND SLURpBE",
   "GIN PHRASEpEND PHRASEpCOMBINING ACCENTzSTACCATOzTENUTOzSTACCATISSIMOzMARCATO)-STACCATOzACCENT-",
   "STACCATOzLOUREpARPEGGIATO UP!DOWNpCOMBINING DOITzRIPzFLIPzSMEARzBENDzDOUBLE TONGUEzTRIPLE TONG",
   "UEpRINFORZANDOpSUBITOpZpPIANOpMEZZOpFORTEpCRESCENDOpDECRESCENDOpGRACE NOTE SLASH!NO SLASHpTRqU",
   "RNpINVERTED TURNpTURN SLASHuUPpORNAMENT STROKE-1(2(3(4(5(6(7(8(9(10)1pHAUPTSTIMMEpNEBENSTIMMEp",
   "END OF STIMMEpDEGREE SLASHpCOMBINING DOWN BOWzUP BOWzHARMONICzSNAP PIZZICATOpPEDAL MARKvUP MAR",
   "KpHALF PEDAL MARKpGLISSANDO UPzDOWNpWITH FINGERNAILSpDAMPt ALLpMAXIMApLONGApBREVISpSEMIBREVIS ",
   "WHITE!BLACKpMINIMAv BLACKpSEMIMINIMA WHITE!BLACKpFUSA WHITEuBLACKpLONGA PERFECTA RESTvIMPERFEC",
   "TA RESTpBREVIS RESTpSEMIBREVIS RESTpMINIMA RESTpSEMIMINIMA RESTpTEMPUS PERFECTUM CUM PROLATION",
   "E PERFECTA_IMPERFECTA_PERFECTA DIMINUTION-1wIMPERFECTUM CUM PROLATIONE PERFECTA~IMPERFECTA~IMP",
   "ERFECTA DIMINUTION-1~IMPERFECTA DIMINUTION-2~IMPERFECTA DIMINUTION-3pCROIXpGREGORIAN C CLEFzF ",
   "CLEFpSQUARE BpVIRGApPODATUSpCLIVISpSCANDICUSpCLIMACUSpTORCULUSpPORRECTUSy FLEXUSpSCANDICUS FLE",
   "XUSpTORCULUS RESUPINUSpPES SUBPUNCTISpKIEVAN C CLEFwEND OF PIECEwFINAL NOTEwRECITATIVE MARKwWH",
   "OLE NOTEwHALF NOTEwQUARTER NOTE STEM DOWN=UPwEIGHTH NOTE STEM DOWN<UPwFLAT SIGNpSORIpKORON,1D2",
   "00,aGREEK VOCAL NOTATION SYMBOL-1$2$3$4$5$6$7$8$9$10%1%2%3%4%5%6%7%8%9$20%1%2%3%4$50%1%2%3%4gI",
   "NSTRUMENTAL NOTATION SYMBOL-1.2.4.5.7.8.11/2/3/4/7/8/9.23/4/5/6/7/9.30/2/6/7/8/9.40/2/3/5/7/8/",
   "9.50/1/2/3/4aCOMBINING GREEK MUSICAL TRISEMEzETRASEMEyPENTASEMEaGREEK MUSICAL LEIMMA,1D2E0,aMA",
   "YAN NUMERAL ZEROoONEoTWOpHREEoFOURpIVEoSIXpEVENoEIGHToNINEoTENoELEVENoTWELVEpHIRTEENoFOURTEENp",
   "IFTEENoSIXTEENpEVENTEENoEIGHTEENoNINETEEN,1D300,aMONOGRAM FOR EARTHaDIGRAM FOR HEAVENLY EARTHm",
   "UMAN EARTHlEARTHLY HEAVENuUMANqaTETRAGRAM FOR CENTREoFULL CIRCLEoMIREDoBARRIERoKEEPING SMALLoC",
   "ONTRARIETYoASCENToOPPOSITIONoBRANCHING OUToDEFECTIVENESS OR DISTORTIONpIVERGENCEoYOUTHFULNESSo",
   "INCREASEoPENETRATIONoREACHoCONTACToHOLDING BACKoWAITINGoFOLLOWINGoADVANCEoRELEASEqSISTANCEoEAS",
   "EoJOYoCONTENTIONoENDEAVOURoDUTIESoCHANGEoDECISIVENESSoBOLD RESOLUTIONoPACKINGoLEGIONoCLOSENESS",
   "oKINSHIPoGATHERINGoSTRENGTHoPURITYoFULLNESSoRESIDENCEoLAW OR MODELoRESPONSEoGOING TO MEEToENCO",
   "UNTERSoSTOVEoGREATNESSoENLARGEMENToPATTERNoRITUALoFLIGHToVASTNESS OR WASTINGoCONSTANCYoMEASURE",
   "oETERNITYoUNITYoDIMINISHMENToCLOSED MOUTHoGUARDEDNESSpATHERING INoMASSINGoACCUMULATIONoEMBELLI",
   "SHMENToDOUBToWATCHoSINKINGoINNERoDEPARTUREpARKENINGpIMMINGoEXHAUSTIONoSEVERANCEpTOPPAGEoHARDNE",
   "SSoCOMPLETIONpLOSUREoFAILUREoAGGRAVATIONoCOMPLIANCEoON THE VERGEoDIFFICULTIESoLABOURINGoFOSTER",
   "ING,1D360,aCOUNTING ROD UNIT DIGIT ONEyTWOzHREEyFOURzIVEySIXzEVENyEIGHTyNINEnTENS DIGIT ONEyTW",
   "OzHREEyFOURzIVEySIXzEVENyEIGHTyNINEaIDEOGRAPHIC TALLY MARK ONExTWOyHREExFOURyIVEaTALLY MARK ON",
   "ElFIVE,1D400,aMATHEMATICAL BOLD CAPITAL A!B!C!D!E!F!G!H!I!J!K!L!M!N!O!P!Q!R!S!T!U!V!W!X!Y!ZsSM",
   "ALL AyByCyDyEyFyGyHyIyJyKyLyMyNyOyPyQyRySyTyUyVyWyXyYyZnITALIC CAPITAL A$B$C$D$E$F$G$H$I$J$K$L",
   "$M$N$O$P$Q$R$S$T$U$V$W$X$Y$ZuSMALL A!B!C!D!E!F!G,1D456,aMATHEMATICAL ITALIC SMALL I!J!K!L!M!N!",
   "O!P!Q!R!S!T!U!V!W!X!Y!ZnBOLD ITALIC CAPITAL A*B*C*D*E*F*G*H*I*J*K*L*M*N*O*P*Q*R*S*T*U*V*W*X*Y*",
   "ZzSMALL A(B(C(D(E(F(G(H(I(J(K(L(M(N(O(P(Q(R(S(T(U(V(W(X(Y(ZnSCRIPT CAPITAL A,1D49E,aMATHEMATIC",
   "AL SCRIPT CAPITAL C$D,1D4A2,aMATHEMATICAL SCRIPT CAPITAL G,1D4A5,aMATHEMATICAL SCRIPT CAPITAL ",
   "J$K,1D4A9,aMATHEMATICAL SCRIPT CAPITAL N$O$P$Q,1D4AE,aMATHEMATICAL SCRIPT CAPITAL S$T$U$V$W$X$",
   "Y$ZuSMALL A!B!C!D,1D4BB,aMATHEMATICAL SCRIPT SMALL F,1D4BD,aMATHEMATICAL SCRIPT SMALL H!I!J!K!",
   "L!M!N,1D4C5,aMATHEMATICAL SCRIPT SMALL P!Q!R!S!T!U!V!W!X!Y!ZnBOLD SCRIPT CAPITAL A*B*C*D*E*F*G",
   "*H*I*J*K*L*M*N*O*P*Q*R*S*T*U*V*W*X*Y*ZzSMALL A(B(C(D(E(F(G(H(I(J(K(L(M(N(O(P(Q(R(S(T(U(V(W(X(Y",
   "(ZnFRAKTUR CAPITAL A%B,1D507,aMATHEMATICAL FRAKTUR CAPITAL D%E%F%G,1D50D,aMATHEMATICAL FRAKTUR",
   " CAPITAL J%K%L%M%N%O%P%Q,1D516,aMATHEMATICAL FRAKTUR CAPITAL S%T%U%V%W%X%Y,1D51E,aMATHEMATICAL",
   " FRAKTUR SMALL A#B#C#D#E#F#G#H#I#J#K#L#M#N#O#P#Q#R#S#T#U#V#W#X#Y#ZnDOUBLE-STRUCK CAPITAL A.B,1",
   "D53B,aMATHEMATICAL DOUBLE-STRUCK CAPITAL D.E.F.G,1D540,aMATHEMATICAL DOUBLE-STRUCK CAPITAL I.J",
   ".K.L.M,1D546,aMATHEMATICAL DOUBLE-STRUCK CAPITAL O,1D54A,aMATHEMATICAL DOUBLE-STRUCK CAPITAL S",
   ".T.U.V.W.X.Y,1D552,aMATHEMATICAL DOUBLE-STRUCK SMALL A*B*C*D*E*F*G*H*I*J*K*L*M*N*O*P*Q*R*S*T*U",
   "*V*W*X*Y*ZnBOLD FRAKTUR CAPITAL A+B+C+D+E+F+G+H+I+J+K+L+M+N+O+P+Q+R+S+T+U+V+W+X+Y+Z!SMALL A)B)",
   "C)D)E)F)G)H)I)J)K)L)M)N)O)P)Q)R)S)T)U)V)W)X)Y)ZnSANS-SERIF CAPITAL A)B)C)D)E)F)G)H)I)J)K)L)M)N",
   ")O)P)Q)R)S)T)U)V)W)X)Y)ZySMALL A&B&C&D&E&F&G&H&I&J&K&L&M&N&O&P&Q&R&S&T&U&V&W&X&Y&ZyBOLD CAPITA",
   "L A:B:C:D:E:F:G:H:I:J:K:L:M:N:O:P:Q:R:S:T:U:V:W:X:Y:Z%SMALL A.B.C.D.E.F.G.H.I.J.K.L.M.N.O.P.Q.",
   "R.S.T.U.V.W.X.Y.ZyITALIC CAPITAL A<B<C<D<E<F<G<H<I<J<K<L<M<N<O<P<Q<R<S<T<U<V<W<X<Y<Z(SMALL A:B",
   ":C:D:E:F:G:H:I:J:K:L:M:N:O:P:Q:R:S:T:U:V:W:X:Y:ZyBOLD ITALIC CAPITAL A[B[C[D[E[F[G[H[I[J[K[L[M",
   "[N[O[P[Q[R[S[T[U[V[W[X[Y[Z/SMALL A?B?C?D?E?F?G?H?I?J?K?L?M?N?O?P?Q?R?S?T?U?V?W?X?Y?ZnMONOSPACE",
   " CAPITAL A(B(C(D(E(F(G(H(I(J(K(L(M(N(O(P(Q(R(S(T(U(V(W(X(Y(ZxSMALL A%B%C%D%E%F%G%H%I%J%K%L%M%N",
   "%O%P%Q%R%S%T%U%V%W%X%Y%ZnITALIC SMALL DOTLESS I+J,1D6A8,aMATHEMATICAL BOLD CAPITAL ALPHA!BETA!",
   "GAMMA!DELTA!EPSILON!ZETA!ETA!THETA!IOTA!KAPPA!LAMDA!MU!NU!XI!OMICRON!PI!RHO!THETA SYMBOL!SIGMA",
   "!TAU!UPSILON!PHI!CHI!PSI!OMEGAsNABLAsSMALL ALPHAyBETAyGAMMAyDELTAyEPSILONyZETAyETAyTHETAyIOTAy",
   "KAPPAyLAMDAyMUyNUyXIyOMICRONyPIyRHOyFINAL SIGMAySIGMAyTAUyUPSILONyPHIyCHIyPSIyOMEGAsPARTIAL DI",
   "FFERENTIALsEPSILON SYMBOLsTHETA SYMBOLsKAPPA SYMBOLsPHI SYMBOLsRHO SYMBOLsPI SYMBOLnITALIC CAP",
   "ITAL ALPHA$BETA$GAMMA$DELTA$EPSILON$ZETA$ETA$THETA$IOTA$KAPPA$LAMDA$MU$NU$XI$OMICRON$PI$RHO$TH",
   "ETA SYMBOL$SIGMA$TAU$UPSILON$PHI$CHI$PSI$OMEGAuNABLAuSMALL ALPHA!BETA!GAMMA!DELTA!EPSILON!ZETA",
   "!ETA!THETA!IOTA!KAPPA!LAMDA!MU!NU!XI!OMICRON!PI!RHO!FINAL SIGMA!SIGMA!TAU!UPSILON!PHI!CHI!PSI!",
   "OMEGAuPARTIAL DIFFERENTIALuEPSILON SYMBOLuTHETA SYMBOLuKAPPA SYMBOLuPHI SYMBOLuRHO SYMBOLuPI S",
   "YMBOLnBOLD ITALIC CAPITAL ALPHA*BETA*GAMMA*DELTA*EPSILON*ZETA*ETA*THETA*IOTA*KAPPA*LAMDA*MU*NU",
   "*XI*OMICRON*PI*RHO*THETA SYMBOL*SIGMA*TAU*UPSILON*PHI*CHI*PSI*OMEGAzNABLAzSMALL ALPHA(BETA(GAM",
   "MA(DELTA(EPSILON(ZETA(ETA(THETA(IOTA(KAPPA(LAMDA(MU(NU(XI(OMICRON(PI(RHO(FINAL SIGMA(SIGMA(TAU",
   "(UPSILON(PHI(CHI(PSI(OMEGAzPARTIAL DIFFERENTIALzEPSILON SYMBOLzTHETA SYMBOLzKAPPA SYMBOLzPHI S",
   "YMBOLzRHO SYMBOLzPI SYMBOLnSANS-SERIF BOLD CAPITAL ALPHA:BETA:GAMMA:DELTA:EPSILON:ZETA:ETA:THE",
   "TA:IOTA:KAPPA:LAMDA:MU:NU:XI:OMICRON:PI:RHO:THETA SYMBOL:SIGMA:TAU:UPSILON:PHI:CHI:PSI:OMEGA%N",
   "ABLA%SMALL ALPHA.BETA.GAMMA.DELTA.EPSILON.ZETA.ETA.THETA.IOTA.KAPPA.LAMDA.MU.NU.XI.OMICRON.PI.",
   "RHO.FINAL SIGMA.SIGMA.TAU.UPSILON.PHI.CHI.PSI.OMEGA%PARTIAL DIFFERENTIAL%EPSILON SYMBOL%THETA ",
   "SYMBOL%KAPPA SYMBOL%PHI SYMBOL%RHO SYMBOL%PI SYMBOL%ITALIC CAPITAL ALPHA[BETA[GAMMA[DELTA[EPSI",
   "LON[ZETA[ETA[THETA[IOTA[KAPPA[LAMDA[MU[NU[XI[OMICRON[PI[RHO[THETA SYMBOL[SIGMA[TAU[UPSILON[PHI",
   "[CHI[PSI[OMEGA/NABLA/SMALL ALPHA?BETA?GAMMA?DELTA?EPSILON?ZETA?ETA?THETA?IOTA?KAPPA?LAMDA?MU?N",
   "U?XI?OMICRON?PI?RHO?FINAL SIGMA?SIGMA?TAU?UPSILON?PHI?CHI?PSI?OMEGA/PARTIAL DIFFERENTIAL/EPSIL",
   "ON SYMBOL/THETA SYMBOL/KAPPA SYMBOL/PHI SYMBOL/RHO SYMBOL/PI SYMBOLnBOLD CAPITAL DIGAMMAsSMALL",
   " DIGAMMA,1D7CE,aMATHEMATICAL BOLD DIGIT ZEROyONEyTWOzHREEyFOURzIVEySIXzEVENyEIGHTyNINEnDOUBLE-",
   "STRUCK DIGIT ZERO*ONE*TWO+HREE*FOUR+IVE*SIX+EVEN*EIGHT*NINEnSANS-SERIF DIGIT ZERO&ONE&TWO(HREE",
   "&FOUR(IVE&SIX(EVEN&EIGHT&NINEyBOLD DIGIT ZERO.ONE.TWO/HREE.FOUR/IVE.SIX/EVEN.EIGHT.NINEnMONOSP",
   "ACE DIGIT ZERO%ONE%TWO&HREE%FOUR&IVE%SIX&EVEN%EIGHT%NINEaSIGNWRITING HAND-FIST INDEXrCIRCLE IN",
   "DEXsUP INDEXrOVAL INDEXrHINGE INDEXrANGLE INDEXrFIST INDEX BENTrCIRCLE INDEX BENTrFIST THUMB U",
   "NDER INDEX BENTwINDEX RAISED KNUCKLE$CUPPED$HINGED+ LOWrCIRCLE INDEX HINGErFIST INDEX MIDDLErC",
   "IRCLE INDEX MIDDLErFIST INDEX MIDDLE BENT.RAISED KNUCKLES.HINGED$UP MIDDLE HINGED$HINGED MIDDL",
   "E UP$MIDDLE CONJOINED[ INDEX BENT]MIDDLE BENT]CUPPED]HINGED/ROSSEDrCIRCLE INDEX MIDDLE CROSSED",
   "rFIST MIDDLE BENT OVER INDEXwINDEX BENT OVER MIDDLE$MIDDLE THUMBrCIRCLE INDEX MIDDLE THUMBrFIS",
   "T INDEX MIDDLE STRAIGHT THUMB BENT.BENT THUMB STRAIGHT.THUMB BENT.HINGED SPREAD THUMB SIDE$UP ",
   "MIDDLE HINGED THUMB SIDE~B CONJOINED$HINGED MIDDLE UP THUMB SIDE$MIDDLE UP SPREAD THUMB FORWAR",
   "D.THUMB CUPPED?IRCLED>HOOKED?INGEDwTHUMB BETWEEN INDEX MIDDLE STRAIGHTwINDEX MIDDLE CONJOINED ",
   "THUMB SIDE~B SIDE CONJOINED~B SIDE BENTwMIDDLE THUMB HOOKED INDEX UPwINDEX THUMB HOOKED MIDDLE",
   " UP$MIDDLE CONJOINED HINGED THUMB SIDE/ROSSED THUMB SIDE/ONJOINED THUMB FORWARD]CUPPED THUMB F",
   "ORWARDwMIDDLE THUMB CUPPED INDEX UPwINDEX THUMB CUPPED MIDDLE UPwMIDDLE THUMB CIRCLED INDEX UP",
   "~HINGEDwINDEX THUMB ANGLED OUT MIDDLE UP>IN MIDDLE UP+CIRCLED MIDDLE UP$MIDDLE THUMB CONJOINED",
   " HINGED>ANGLED OUT_wMIDDLE THUMB ANGLED OUT INDEX UP~EX CROSSED?INDEX UPwINDEX THUMB HOOKED MI",
   "DDLE HINGEDsLAT FOUR FINGERS+ BENT.HINGED.CONJOINED[ SPLITrCLAW FOUR FINGERS CONJOINEDrFIST FO",
   "UR FINGERS CONJOINED BENTrHINGE FOUR FINGERS CONJOINEDrFLAT FIVE FINGERS SPREADwHEEL FIVE FING",
   "ERS SPREADwFIVE FINGERS SPREAD FOUR BENTwHEEL FIVE FINGERS SPREAD FOUR BENTwFIVE FINGERS SPREA",
   "D BENTwHEEL FIVE FINGERS SPREAD BENTwFIVE FINGERS SPREAD THUMB FORWARDrCUP FIVE FINGERS SPREAD",
   "= OPENrHINGE FIVE FINGERS SPREAD OPENrOVAL FIVE FINGERS SPREADrFLAT FIVE FINGERS SPREAD HINGED",
   "| THUMB SIDE~NO THUMBvv BETWEEN PALM FACINGSwHEELwTHUMB SIDEwHEEL THUMB SIDEwTHUMB BENT$FORWAR",
   "DwSPLIT INDEX THUMB SIDE$CENTRE+ THUMB SIDE] BENT$LITTLErCLAWv THUMB SIDEwNO THUMBwTHUMB FORWA",
   "RDrHOOK CURLICUEvrCUP OPENuu OPEN THUMB SIDEvTHUMB SIDEvOPEN NO THUMBvNO THUMBvOPEN THUMB FORW",
   "ARDvTHUMB FORWARDtRLICUE OPENzsIRCLErOVALv THUMB SIDEwNO THUMBwTHUMB FORWARDrHINGE OPEN# THUMB",
   " FORWARDww SMALLxOPEN THUMB SIDExTHUMB SIDExOPEN NO THUMBxNO THUMBxTHUMB SIDE TOUCHING INDEX%B",
   "ETWEEN MIDDLE RINGrANGLErFIST INDEX MIDDLE RINGrCIRCLE INDEX MIDDLE RINGrHINGE INDEX MIDDLE RI",
   "NGrANGLE INDEX MIDDLE RINGrHINGE LITTLErFIST INDEX MIDDLE RING BENT=CONJOINEDrHINGE INDEX MIDD",
   "LE RING CONJOINEDrFIST LITTLE DOWN* RIPPLE STRAIGHT>CURVED+OTHERS CIRCLED%UPwTHUMB UNDER LITTL",
   "E UPrCIRCLE LITTLE UPrOVAL LITTLE UPrANGLE LITTLE UPrFIST LITTLE RAISED KNUCKLE%BENT%TOUCHES T",
   "HUMB&HUMBrHINGE LITTLE THUMBrFIST LITTLE INDEX THUMBrHINGE LITTLE INDEX THUMBrANGLE LITTLE IND",
   "EX THUMB INDEX THUMB OUT~HUMBrFIST LITTLE INDEXrCIRCLE LITTLE INDEXrHINGE LITTLE INDEXrANGLE L",
   "ITTLE INDEXrFIST INDEX MIDDLE LITTLErCIRCLE INDEX MIDDLE LITTLErHINGE INDEX MIDDLE LITTLExRING",
   "rANGLE INDEX MIDDLE LITTLErFIST INDEX MIDDLE CROSS LITTLErCIRCLE INDEX MIDDLE CROSS LITTLErFIS",
   "T RING DOWNrHINGE RING DOWN INDEX THUMB HOOK MIDDLErANGLE RING DOWN MIDDLE THUMB INDEX CROSSrF",
   "IST RING UP#RAISED KNUCKLE#LITTLErCIRCLE RING LITTLErOVAL RING LITTLErANGLE RING LITTLErFIST R",
   "ING MIDDLE* CONJOINED+RAISED KNUCKLES#INDEX#THUMBrHOOK RING THUMBrFIST INDEX RING LITTLErCIRCL",
   "E INDEX RING LITTLEsURLICUE INDEX RING LITTLE ONrHOOK INDEX RING LITTLE OUT=IN=UNDERrCUP INDEX",
   " RING LITTLErHINGE INDEX RING LITTLErANGLE INDEX RING LITTLE OUT=rFIST MIDDLE DOWNrHINGE MIDDL",
   "ErFIST MIDDLE UPrCIRCLE MIDDLE UPrFIST MIDDLE RAISED KNUCKLE%UP THUMB SIDErHOOK MIDDLE THUMBrF",
   "IST MIDDLE THUMB LITTLE%LITTLE%RING LITTLErCIRCLE MIDDLE RING LITTLEsURLICUE MIDDLE RING LITTL",
   "E ONtP MIDDLE RING LITTLErHINGE MIDDLE RING LITTLErANGLE MIDDLE RING LITTLE OUT?IN>rCIRCLE MID",
   "DLE RING LITTLE BENTsLAW MIDDLE RING LITTLE CONJOINED~D SIDErHOOK MIDDLE RING LITTLE CONJOINED",
   " OUT~D IN~DsINGE INDEX HINGEDrFIST INDEX THUMB SIDErHINGE INDEX THUMB SIDErFIST INDEX THUMB SI",
   "DE THUMB DIAGONAL]CONJOINED]BENT<INDEX BENT<BOTH BENT<INDEX HINGE+FORWARD INDEX STRAIGHT|BENT+",
   "HOOK+CURLICUE:VE THUMB INSIDErCLAW INDEX THUMB CURVE THUMB INSIDErFIST INDEX THUMB CURVE THUMB",
   " UNDER.IRCLErCUP INDEX THUMB) OPENrHINGE INDEX THUMB OPEN.LARGE++ SMALLrANGLE INDEX THUMB OUT.",
   "IN+rFIST THUMB# HEEL$SIDE DIAGONAL*CONJOINED*BENT$FORWARD$BETWEEN INDEX MIDDLE/MIDDLE RING/RIN",
   "G LITTLE$UNDER TWO FINGERS$OVER TWO FINGERS$UNDER THREE FINGERS+FOUR FINGERS$OVER FOUR RAISED ",
   "KNUCKLESvv HEELmTOUCH SINGLEsMULTIPLEsBETWEENmGRASP SINGLEsMULTIPLEsBETWEENmSTRIKE SINGLEtMULT",
   "IPLEtBETWEENmBRUSH SINGLEsMULTIPLEsBETWEENmRUB SINGLEqMULTIPLEqBETWEENmSURFACE SYMBOLSuBETWEEN",
   "nQUEEZE LARGE SINGLEuSMALL SINGLEuLARGE MULTIPLEuSMALL MULTIPLEvEQUENTIALmFLICK LARGE SINGLEsS",
   "MALL SINGLEsLARGE MULTIPLEsSMALL MULTIPLEtEQUENTIALmSQUEEZE FLICK ALTERNATINGmMOVEMENT-HINGE U",
   "P DOWN LARGE.SMALL&SEQUENTIAL#DOWN SEQUENTIAL#UP DOWN ALTERNATING LARGE_SMALL#SIDE TO SIDE SCI",
   "SSORSvWALLPLANE FINGER CONTACTvFLOORPLANE FINGER CONTACTvWALLPLANE SINGLE STRAIGHT SMALL_MEDIU",
   "M_LARGE~RGEST;WRIST FLEX(DOUBLE STRAIGHT;WRIST FLEX;ALTERNATING~ WRIST FLEX(CROSS(TRIPLE STRAI",
   "GHT MOVEMENT;WRIST FLEX;ALTERNATING~ WRIST FLEX(BEND SMALL/MEDIUM/LARGE(CORNER SMALL;MEDIUM;LA",
   "RGE;ROTATION)HECK SMALL:MEDIUM:LARGE(BOX SMALL.MEDIUM.LARGE(ZIGZAG SMALL;MEDIUM;LARGE(PEAKS SM",
   "ALL:MEDIUM:LARGEmTRAVEL-WALLPLANE ROTATION-WALLPLANE SINGLE|DOUBLE|ALTERNATING;FLOORPLANE SING",
   "LE~DOUBLE~ALTERNATING%SHAKING%ARM SPIRAL SINGLE=DOUBLE=TRIPLEmMOVEMENT-DIAGONAL AWAY SMALL.MED",
   "IUM.LARGE=ST&TOWARDS SMALL;MEDIUM;LARGE@ST&BETWEEN AWAY SMALL@MEDIUM@LARGE|ST;TOWARDS SMALL^ME",
   "DIUM^LARGE~GESTvFLOORPLANE SINGLE STRAIGHT SMALL|MEDIUM|LARGE~ARGEST<WRIST FLEX)DOUBLE STRAIGH",
   "T<WRIST FLEX<ALTERNATING~G WRIST FLEX)CROSS)TRIPLE STRAIGHT MOVEMENT<WRIST FLEX<ALTERNATING MO",
   "VEMENT~G WRIST FLEX)BEND)CORNER SMALL<MEDIUM<LARGE*HECK)BOX SMALL/MEDIUM/LARGE)ZIGZAG SMALL<ME",
   "DIUM<LARGE)PEAKS SMALL;MEDIUM;LARGEmTRAVEL-FLOORPLANE ROTATION-FLOORPLANE SINGLE~ DOUBLE~ ALTE",
   "RNATING<WALLPLANE SINGLE~DOUBLE~ALTERNATING&SHAKINGmMOVEMENT-WALLPLANE CURVE QUARTER SMALL]MED",
   "IUM]LARGE~EST:HALF-CIRCLE SMALL~MEDIUM~LARGE~LARGEST:THREE-QUARTER CIRCLE SMALL~R CIRCLE MEDIU",
   "M(HUMP SMALL/MEDIUM/LARGE(LOOP SMALL/MEDIUM/LARGE/SMALL DOUBLE(WAVE CURVE DOUBLE SMALL~MEDIUM~",
   "LARGE?TRIPLE SMALL~MEDIUM~LARGE(CURVE THEN STRAIGHT/D CROSS SMALL[MEDIUMmROTATION-WALLPLANE SI",
   "NGLE(DOUBLE(ALTERNATEmMOVEMENT-WALLPLANE SHAKING(CURVE HITTING FRONT WALL(HUMP HITTING FRONT W",
   "ALL(LOOP HITTING FRONT WALL(WAVE HITTING FRONT WALLmROTATION-WALLPLANE SINGLE HITTING FRONT WA",
   "LL(DOUBLE HITTING FRONT WALL(ALTERNATING HITTING FRONT WALLmMOVEMENT-WALLPLANE CURVE HITTING C",
   "HEST(HUMP HITTING CHEST(LOOP HITTING CHEST(WAVE HITTING CHESTmROTATION-WALLPLANE SINGLE HITTIN",
   "G CHEST(DOUBLE HITTING CHEST(ALTERNATING HITTING CHESTmMOVEMENT-WALLPLANE WAVE DIAGONAL PATH S",
   "MALL~ MEDIUM~ LARGEvFLOORPLANE CURVE HITTING CEILING SMALL~LING LARGE)HUMP HITTING CEILING SMA",
   "LL DOUBLE~ING LARGE DOUBLE~ING SMALL TRIPLE~ING LARGE TRIPLE)LOOP HITTING CEILING SMALL SINGLE",
   "~ING LARGE SINGLE~ING SMALL DOUBLE~ING LARGE DOUBLE)WAVE HITTING CEILING SMALL~ING LARGEmROTAT",
   "ION-FLOORPLANE SINGLE HITTING CEILING)DOUBLE HITTING CEILING)ALTERNATING HITTING CEILINGmMOVEM",
   "ENT-FLOORPLANE CURVE HITTING FLOOR SMALL~OR LARGE)HUMP HITTING FLOOR SMALL DOUBLE~R LARGE DOUB",
   "LE~R TRIPLE SMALL TRIPLE~R TRIPLE LARGE TRIPLE)LOOP HITTING FLOOR SMALL SINGLE~R LARGE SINGLE~",
   "R SMALL DOUBLE~R LARGE DOUBLE)WAVE HITTING FLOOR SMALL~R LARGEmROTATION-FLOORPLANE SINGLE HITT",
   "ING FLOOR)DOUBLE HITTING FLOOR)ALTERNATING HITTING FLOORmMOVEMENT-FLOORPLANE CURVE SMALL;MEDIU",
   "M;LARGE@ST;COMBINED)HUMP SMALL)LOOP SMALL)WAVE SNAKE;MALL:LARGEmROTATION-FLOORPLANE SINGLE)DOU",
   "BLE)ALTERNATINGmMOVEMENT-FLOORPLANE SHAKING PARALLELvWALLPLANE ARM CIRCLE SMALL SINGLE?MEDIUM ",
   "SINGLE?SMALL DOUBLE?MEDIUM DOUBLEvFLOORPLANE ARM CIRCLE HITTING WALL SMALL SINGLE~G WALL MEDIU",
   "M SINGLE~G WALL LARGE SINGLE~G WALL SMALL DOUBLE~G WALL MEDIUM DOUBLE~G WALL LARGE DOUBLEvWALL",
   "PLANE WRIST CIRCLE FRONT SINGLE~ DOUBLEvFLOORPLANE WRIST CIRCLE HITTING WALL SINGLE~ING WALL D",
   "OUBLEvWALLPLANE FINGER CIRCLES SINGLE^DOUBLEvFLOORPLANE FINGER CIRCLES HITTING WALL SINGLE~TTI",
   "NG WALL DOUBLEmDYNAMIC ARROWHEAD SMALL&LARGEuFASTuSLOWuTENSEuRELAXEDuSIMULTANEOUS) ALTERNATING",
   "uEVERY OTHER TIMEuGRADUALmHEADq RIMrMOVEMENT-WALLPLANE STRAIGHT/TILT!FLOORPLANE STRAIGHT!WALLP",
   "LANE CURVE!FLOORPLANE CURVEz CIRCLEmFACE DIRECTION POSITION NOSE FORWARD TILTING>UP OR DOWN~WN",
   " TILTINGmEYEBROWS STRAIGHT UP&NEUTRAL&DOWNmDREAMY EYEBROWS NEUTRAL DOWN$DOWN NEUTRAL$UP NEUTRA",
   "L$NEUTRAL UPmFOREHEAD NEUTRALvCONTACTvWRINKLEDmEYES OPENrSQUEEZEDrCLOSEDp BLINK SINGLEwMULTIPL",
   "EpS HALF OPENrWIDE OPENrHALF CLOSEDrWIDENING MOVEMENTp WINKpLASHES UPwDOWNwFLUTTERINGpGAZE-WAL",
   "LPLANE STRAIGHT; DOUBLE<ALTERNATINGuFLOORPLANE STRAIGHT< DOUBLE=ALTERNATINGuWALLPLANE CURVEDuF",
   "LOORPLANE CURVEDuWALLPLANE CIRCLINGmCHEEKS PUFFEDtNEUTRALtSUCKEDmTENSE CHEEKS HIGHzMIDDLEzLOWm",
   "EARSmNOSE NEUTRALrCONTACTrWRINKLESsIGGLESmAIR BLOWING OUTqSUCKING INqBLOW SMALL ROTATIONSqSUCK",
   " SMALL ROTATIONSmBREATH INHALEtEXHALEmMOUTH CLOSED NEUTRALzFORWARDzCONTACTsSMILEx WRINKLEDyOPE",
   "NsFROWNx WRINKLEDyOPENsOPEN CIRCLExFORWARDxWRINKLEDxOVAL# WRINKLED$YAWNxRECTANGLE) WRINKLED*YA",
   "WNsKISSw FORWARDxWRINKLEDsTENSEx FORWARDySUCKEDmLIPS PRESSED TOGETHERp LOWER OVER UPPERqUPPER ",
   "OVER LOWERmMOUTH CORNERSsWRINKLES SINGLE#DOUBLEmTONGUE STICKING OUT FARtLICKING LIPStTIP BETWE",
   "EN LIPSxTOUCHING INSIDE MOUTHtINSIDE MOUTH RELAXEDtMOVES AGAINST CHEEKtCENTRE STICKING OUT!INS",
   "IDE MOUTHnEETHr MOVEMENTsON TONGUE# MOVEMENTvLIPSz MOVEMENTsBITE LIPSmMOVEMENT-WALLPLANE JAWvF",
   "LOORPLANE JAWmNECKmHAIRmEXCITEMENTmSHOULDER HIP SPINEzPOSITIONSmWALLPLANE SHOULDER HIP MOVEmFL",
   "OORPLANE SHOULDER HIP MOVEmSHOULDER TILTING FROM WAISTmTORSO-WALLPLANE STRAIGHT STRETCH$CURVED",
   " BENDsFLOORPLANE TWISTINGmUPPER BODY TILTING FROM HIP JOINTSmLIMB COMBINATIONrLENGTH-1y2y3y4y5",
   "y6y7mFINGERmLOCATION-WALLPLANE SPACEvFLOORPLANE SPACEu HEIGHTvWIDTHvDEPTHvHEAD NECKvTORSOvLIMB",
   "S DIGITSmCOMMAmFULL STOPmSEMICOLONmCOLONmPARENTHESIS,1DA9B,aSIGNWRITING FILL MODIFIER-2!3!4!5!",
   "6,1DAA1,aSIGNWRITING ROTATION MODIFIER-2&3&4&5&6&7&8&9&10(1(2(3(4(5(6,1DF00,aLATIN SMALL LETTE",
   "R FENG DIGRAPH WITH TRILLtREVERSED SCRIPT GgLETTER SMALL CAPITAL TURNED GgSMALL LETTER REVERSE",
   "D KgLETTER SMALL CAPITAL L WITH BELTgSMALL LETTER LEZH WITH RETROFLEX HOOKtTURNED Y WITH BELTt",
   "REVERSED ENGtTURNED R WITH LONG LEG AND RETROFLEX HOOKu WITH HOOK AND RETROFLEX HOOKgLETTER RE",
   "TROFLEX CLICK WITH RETROFLEX HOOKgSMALL LETTER ESH WITH DOUBLE BAR; AND CURLtTURNED T WITH CUR",
   "LgLETTER INVERTED GLOTTAL STOP WITH CURLnSTRETCHED C WITH CURLoMALL CAPITAL TURNED KgSMALL LET",
   "TER L WITH FISHHOOKtDEZH DIGRAPH WITH PALATAL HOOKtL WITH BELT AND PALATAL HOOKtENG WITH PALAT",
   "AL HOOKtTURNED R WITH PALATAL HOOKtR WITH FISHHOOK AND PALATAL HOOKtTESH DIGRAPH WITH PALATAL ",
   "HOOKtEZH WITH PALATAL HOOKtDEZH DIGRAPH WITH RETROFLEX HOOKtI WITH STROKE AND RETROFLEX HOOKtO",
   " WITH RETROFLEX HOOKtTESH DIGRAPH WITH RETROFLEX HOOKtC WITH RETROFLEX HOOKtS WITH CURL,1E000,",
   "aCOMBINING GLAGOLITIC LETTER AZU$BUKY$VEDE$GLAGOLI$DOBRO$YESTU$ZHIVETE,1E008,aCOMBINING GLAGOL",
   "ITIC LETTER ZEMLJA$IZHE%NITIAL IZHE%$DJERVI$KAKO$LJUDIJE$MYSLITE$NASHI$ONU$POKOJI$RITSI$SLOVO$",
   "TVRIDO$UKU$FRITU$HERU,1E01B,aCOMBINING GLAGOLITIC LETTER SHTA$TSI$CHRIVI$SHA$YERU(I%ATI,1E023,",
   "aCOMBINING GLAGOLITIC LETTER YU$SMALL YUS,1E026,aCOMBINING GLAGOLITIC LETTER YO$IOTATED SMALL ",
   "YUS$BIG YUS$IOTATED BIG YUS$FITA,1E100,aNYIAKENG PUACHUE HMONG LETTER MA&TSA&NTA&TA&HA&NA&XA&N",
   "KA&CA&LA&SA&ZA&NCA(TSA&KA&DA&NYA(RA&VA&NTXA&TXA&FA&RA&QA&YA&NQA&PA&XYA&NPA&DLA&NPLA&HAH&MLA&PL",
   "A&GA&RRA&A(A&I&U&O(O&E(E&W,1E130,aNYIAKENG PUACHUE HMONG TONE-B$M$J$V$S$G$DxSIGN FOR PERSON)TH",
   "ING)LOCATION)ANIMAL)INVERTEBRATE$XW XWyYLLABLE LENGTHENER,1E140,aNYIAKENG PUACHUE HMONG DIGIT ",
   "ZERO%ONE%TWO&HREE%FOUR&IVE%SIX&EVEN%EIGHT%NINE,1E14E,aNYIAKENG PUACHUE HMONG LOGOGRAM NYAJxCIR",
   "CLED CA,1E290,aTOTO LETTER PAmBAmTAmDAmKAmGAmMAmNAnGAmSAmCHAmYAmWAmJAmHAmRAmLAmImBREATHY ImIUm",
   "BREATHY IUmUmEmBREATHY EmEOmBREATHY EOmOmAEmBREATHY AEmAfSIGN RISING TONE,1E2C0,aWANCHO LETTER",
   " AApoBAoCAoDAoGAoYAoPHAoLAoNAoPAoTApHAoFAoSApHAoJAoZAoWAoVAoKAoOoAUoRAoMAoKHAoHAoEoIoNGAoUoLLH",
   "AoTSApRAoONGoAANGpNGoINGoONoENoAANoNYAoUENoYIHhTONE TUPpNImKOIpNIhDIGIT ZEROnONEnTWOoHREEnFOUR",
   "oIVEnSIXoEVENnEIGHTnNINE,1E2FF,aWANCHO NGUN SIGN,1E7E0,aETHIOPIC SYLLABLE HHYAvUvIvAAvEEwvO,1E",
   "7E8,aETHIOPIC SYLLABLE GURAGE HHWAsHHWIvEEw,1E7ED,aETHIOPIC SYLLABLE GURAGE MWI#EE,1E7F0,aETHI",
   "OPIC SYLLABLE GURAGE QWI#EE$zBWI#EEzKWI#EE$zGWI#EE$zFWI#EEzPWI#EE,1E800,aMENDE KIKAKUI SYLLABL",
   "E M001 KI!2 KA!3 KUz65 KEEz95 KEz76 KOOz48 KOy179 KUAy004 WI!5 WA!6 WUy126 WEEz18 WE!4 WOOy045",
   " WOy194 WUIz43 WEIy061 WVIz49 WVAy139 WVEy007 MIN!8 MAN!9 MUNz59 MENz94 MONy154 MUANz89 MUENy0",
   "10 BI!1 BA!2 BUy150 BEEy097 BEy103 BOOz38 BOy013 I!4 A!5 Uy163 EEz00 Ez65 OOz47 Oz37 EI!1 IN!5",
   " INz95 ANz78 ENy019 SIz20 SA!1 SUy162 SEEz16 SEz36 SOOy079 SOy196 SIAy025 LI!6 LA!7 LUz84 LEEz",
   "73 LEz54 LOOy153 LOz10 LONG LEy016 DI!7 DA!8 DUz89 DEEy180 DOO!1 DOy022 TI!3 TA!4 TUz91 TEEz55",
   " TEy104 TOOy069 TOz28 JI!9 JAz30 JUy157 JEEz13 JEz60 JOOy063 JOy175 LONG JOy031 YI!2 YA!3 YUy1",
   "09 YEEy080 YEy141 YOOz21 YOy034 FI!5 FA!6 FUz78 FEE!5 FEy133 FOOy088 FOy197 FUAz01 FANy037 NIN",
   "!8 NAN!9 NUNy117 NENz69 NONz76 HIy041 HAy186 HUy040 HEEz96 HEz42 HOOy140 HOy083 HEEIy128 HOOUy",
   "053 HINy130 HANy087 HUNz52 HENy193 HONy046 HUANz90 NGGIz43 NGGAz82 NGGUy115 NGGEEz46 NGGEz56 N",
   "GGOOz20 NGGOz59 NGGAAz27 NGGUAy086 LONG NGGEy106 LONG NGGOOz83 LONG NGGOz55 GIz11 GAz68 GUz90 ",
   "GEEz66 GUEI!7 GUANz84 NGENy057 NGONy177 NGUANy068 PIz99 PAz50 PUz81 PEEz51 PEy102 POOy066 POy1",
   "45 MBIy062 MBAy122 MBUy047 MBEEy188 MBEEy072 MBEy172 MBOO!4 MBOz87 MBUUz61 LONG MBEz05 LONG MB",
   "OOz42 LONG MBOz32 KPIy092 KPAz74 KPUz44 KPEEy108 KPEz12 KPOOz58 KPOz24 GBIy056 GBAy148 GBUy093",
   " GBEEy107 GBEy071 GBOO!0 GBOy171 RAz23 NDI!9 NDA!5 NDUz91 NDEEz19 NDEy067 NDOO!4 NDOy152 NJAz9",
   "2 NJUz49 NJEEz34 NJOOz82 VI!5 VAz51 VUz73 VEEy085 VEy144 VOOy077 VOy164 NYINy058 NYANy170 NYUN",
   "y098 NYENz60 NYON,1E8C7,aMENDE KIKAKUI DIGIT ONEuTWOvHREEuFOURvIVEuSIXvEVENuEIGHTuNINEoCOMBINI",
   "NG NUMBER TEENS*NS(HUNDREDS(THOUSANDS)EN THOUSANDS(HUNDRED THOUSANDS(MILLIONS,1E900,aADLAM CAP",
   "ITAL LETTER ALIFvDAALIvLAAMvMIIMvBAvSINNYIIYHEvPEvBHEvRAvEvFAvIvOvDHAvYHEvWAWvNUNvKAFvYAvUvJII",
   "MvCHIvHAvQAAFvGAvNYAvTUvNHAvVAvKHAvGBEvZALvKPOvSHAgSMALL LETTER ALIFtDAALItLAAMtMIIMtBAtSINNYI",
   "IYHEtPEtBHEtRAtEtFAtItOtDHAtYHEtWAWtNUNtKAFtYAtUtJIIMtCHItHAtQAAFtGAtNYAtTUtNHAtVAtKHAtGBEtZAL",
   "tKPOtSHAgALIF LENGTHENERgVOWEL LENGTHENERgGEMINATION MARKgHAMZAgCONSONANT MODIFIERgGEMINATE CO",
   "NSONANT MODIFIERgNUKTAhASALIZATION MARK,1E950,aADLAM DIGIT ZEROmONEmTWOnHREEmFOURnIVEmSIXnEVEN",
   "mEIGHTmNINE,1E95E,aADLAM INITIAL EXCLAMATION MARKoQUESTION MARK,1EC71,aINDIC SIYAQ NUMBER ONEt",
   "TWOuHREEtFOURuIVEtSIXuEVENtEIGHTtNINEtTENuWENTYuHIRTYtFORTYuIFTYtSIXTYuEVENTYtEIGHTYtNINETYtON",
   "E HUNDREDtTWO HUNDREDuHREE HUNDREDtFOUR HUNDREDuIVE HUNDREDtSIX HUNDREDuEVEN HUNDREDtEIGHT HUN",
   "DREDtNINE HUNDREDtONE THOUSANDtTWO THOUSANDuHREE THOUSANDtFOUR THOUSANDuIVE THOUSANDtSIX THOUS",
   "ANDuEVEN THOUSANDtEIGHT THOUSANDtNINE THOUSANDtTEN THOUSANDuWENTY THOUSANDuHIRTY THOUSANDtFORT",
   "Y THOUSANDuIFTY THOUSANDtSIXTY THOUSANDuEVENTY THOUSANDtEIGHTY THOUSANDtNINETY THOUSANDtLAKHxA",
   "NmLAKH MARKmNUMBER KARORyANtPREFIXED ONE$TWO%HREE$FOUR%IVE$SIX%EVEN$EIGHT$NINEmPLACEHOLDERmFRA",
   "CTION ONE QUARTERzHALFvTHREE QUARTERSmRUPEE MARKmNUMBER ALTERNATE ONE%TWO&EN THOUSANDmALTERNAT",
   "E LAKH MARK,1ED01,aOTTOMAN SIYAQ NUMBER ONEvTWOwHREEvFOURwIVEvSIXwEVENvEIGHTvNINEvTENwWENTYwHI",
   "RTYvFORTYwIFTYvSIXTYwEVENTYvEIGHTYvNINETYvONE HUNDREDvTWO HUNDREDwHREE HUNDREDvFOUR HUNDREDwIV",
   "E HUNDREDvSIX HUNDREDwEVEN HUNDREDvEIGHT HUNDREDvNINE HUNDREDvONE THOUSANDvTWO THOUSANDwHREE T",
   "HOUSANDvFOUR THOUSANDwIVE THOUSANDvSIX THOUSANDwEVEN THOUSANDvEIGHT THOUSANDvNINE THOUSANDvTEN",
   " THOUSANDwWENTY THOUSANDwHIRTY THOUSANDvFORTY THOUSANDwIFTY THOUSANDvSIXTY THOUSANDwEVENTY THO",
   "USANDvEIGHTY THOUSANDvNINETY THOUSANDoMARRATANoALTERNATE NUMBER TWO)HREE(FOUR)IVE(SIX)EVEN(EIG",
   "HT(NINE(TEN(FOUR HUNDRED(SIX HUNDRED(TWO THOUSAND)EN THOUSANDoFRACTION ONE HALF#SIXTH,1EE00,aA",
   "RABIC MATHEMATICAL ALEFuBEHuJEEMuDAL,1EE05,aARABIC MATHEMATICAL WAWuZAINuHAHuTAHuYEHuKAFuLAMuM",
   "EEMuNOONuSEENuAINuFEHuSADuQAFuREHuSHEENuTEHvHEHuKHAHuTHALuDADuZAHuGHAINuDOTLESS BEH$NOON$FEH$Q",
   "AF,1EE21,aARABIC MATHEMATICAL INITIAL BEH$JEEM,1EE24,aARABIC MATHEMATICAL INITIAL HEH,1EE27,aA",
   "RABIC MATHEMATICAL INITIAL HAH,1EE29,aARABIC MATHEMATICAL INITIAL YEH$KAF$LAM$MEEM$NOON$SEEN$A",
   "IN$FEH$SAD$QAF,1EE34,aARABIC MATHEMATICAL INITIAL SHEEN$TEH%HEH$KHAH,1EE39,aARABIC MATHEMATICA",
   "L INITIAL DAD,1EE3B,aARABIC MATHEMATICAL INITIAL GHAIN,1EE42,aARABIC MATHEMATICAL TAILED JEEM,",
   "1EE47,aARABIC MATHEMATICAL TAILED HAH,1EE49,aARABIC MATHEMATICAL TAILED YEH,1EE4B,aARABIC MATH",
   "EMATICAL TAILED LAM,1EE4D,aARABIC MATHEMATICAL TAILED NOON#SEEN#AIN,1EE51,aARABIC MATHEMATICAL",
   " TAILED SAD#QAF,1EE54,aARABIC MATHEMATICAL TAILED SHEEN,1EE57,aARABIC MATHEMATICAL TAILED KHAH",
   ",1EE59,aARABIC MATHEMATICAL TAILED DAD,1EE5B,aARABIC MATHEMATICAL TAILED GHAIN,1EE5D,aARABIC M",
   "ATHEMATICAL TAILED DOTLESS NOON,1EE5F,aARABIC MATHEMATICAL TAILED DOTLESS QAF,1EE61,aARABIC MA",
   "THEMATICAL STRETCHED BEH&JEEM,1EE64,aARABIC MATHEMATICAL STRETCHED HEH,1EE67,aARABIC MATHEMATI",
   "CAL STRETCHED HAH&TAH&YEH&KAF,1EE6C,aARABIC MATHEMATICAL STRETCHED MEEM&NOON&SEEN&AIN&FEH&SAD&",
   "QAF,1EE74,aARABIC MATHEMATICAL STRETCHED SHEEN&TEH(HEH&KHAH,1EE79,aARABIC MATHEMATICAL STRETCH",
   "ED DAD&ZAH&GHAIN&DOTLESS BEH,1EE7E,aARABIC MATHEMATICAL STRETCHED DOTLESS FEH,1EE80,aARABIC MA",
   "THEMATICAL LOOPED ALEF#BEH#JEEM#DAL#HEH#WAW#ZAIN#HAH#TAH#YEH,1EE8B,aARABIC MATHEMATICAL LOOPED",
   " LAM#MEEM#NOON#SEEN#AIN#FEH#SAD#QAF#REH#SHEEN#TEH$HEH#KHAH#THAL#DAD#ZAH#GHAIN,1EEA1,aARABIC MA",
   "THEMATICAL DOUBLE-STRUCK BEH+JEEM+DAL,1EEA5,aARABIC MATHEMATICAL DOUBLE-STRUCK WAW+ZAIN+HAH+TA",
   "H+YEH,1EEAB,aARABIC MATHEMATICAL DOUBLE-STRUCK LAM+MEEM+NOON+SEEN+AIN+FEH+SAD+QAF+REH+SHEEN+TE",
   "H.HEH+KHAH+THAL+DAD+ZAH+GHAIN,1EEF0,aARABIC MATHEMATICAL OPERATOR MEEM WITH HAH WITH TATWEEL%H",
   "AH WITH DAL,1F000,aMAHJONG TILE EAST WINDnSOUTH WINDnWEST WINDnNORTH WINDnRED DRAGONnGREEN DRA",
   "GONnWHITE DRAGONnONE OF CHARACTERSnTWO OF CHARACTERSoHREE OF CHARACTERSnFOUR OF CHARACTERSoIVE",
   " OF CHARACTERSnSIX OF CHARACTERSoEVEN OF CHARACTERSnEIGHT OF CHARACTERSnNINE OF CHARACTERSnONE",
   " OF BAMBOOSnTWO OF BAMBOOSoHREE OF BAMBOOSnFOUR OF BAMBOOSoIVE OF BAMBOOSnSIX OF BAMBOOSoEVEN ",
   "OF BAMBOOSnEIGHT OF BAMBOOSnNINE OF BAMBOOSnONE OF CIRCLESnTWO OF CIRCLESoHREE OF CIRCLESnFOUR",
   " OF CIRCLESoIVE OF CIRCLESnSIX OF CIRCLESoEVEN OF CIRCLESnEIGHT OF CIRCLESnNINE OF CIRCLESnPLU",
   "MnORCHIDnBAMBOOnCHRYSANTHEMUMnSPRINGoUMMERnAUTUMNnWINTERnJOKERnBACK,1F030,aDOMINO TILE HORIZON",
   "TAL BACKw-00-00#1#2#3#4#5#6y1-00#1#2#3#4#5#6y2-00#1#2#3#4#5#6y3-00#1#2#3#4#5#6y4-00#1#2#3#4#5#",
   "6y5-00#1#2#3#4#5#6y6-00#1#2#3#4#5#6mVERTICAL BACKu-00-00z1z2z3z4z5z6w1-00z1z2z3z4z5z6w2-00z1z2",
   "z3z4z5z6w3-00z1z2z3z4z5z6w4-00z1z2z3z4z5z6w5-00z1z2z3z4z5z6w6-00z1z2z3z4z5z6,1F0A0,aPLAYING CA",
   "RD BACKnACE OF SPADESnTWO OF SPADESoHREE OF SPADESnFOUR OF SPADESoIVE OF SPADESnSIX OF SPADESo",
   "EVEN OF SPADESnEIGHT OF SPADESnNINE OF SPADESnTEN OF SPADESnJACK OF SPADESnKNIGHT OF SPADESnQU",
   "EEN OF SPADESnKING OF SPADES,1F0B1,aPLAYING CARD ACE OF HEARTSnTWO OF HEARTSoHREE OF HEARTSnFO",
   "UR OF HEARTSoIVE OF HEARTSnSIX OF HEARTSoEVEN OF HEARTSnEIGHT OF HEARTSnNINE OF HEARTSnTEN OF ",
   "HEARTSnJACK OF HEARTSnKNIGHT OF HEARTSnQUEEN OF HEARTSnKING OF HEARTSnRED JOKER,1F0C1,aPLAYING",
   " CARD ACE OF DIAMONDSnTWO OF DIAMONDSoHREE OF DIAMONDSnFOUR OF DIAMONDSoIVE OF DIAMONDSnSIX OF",
   " DIAMONDSoEVEN OF DIAMONDSnEIGHT OF DIAMONDSnNINE OF DIAMONDSnTEN OF DIAMONDSnJACK OF DIAMONDS",
   "nKNIGHT OF DIAMONDSnQUEEN OF DIAMONDSnKING OF DIAMONDSnBLACK JOKER,1F0D1,aPLAYING CARD ACE OF ",
   "CLUBSnTWO OF CLUBSoHREE OF CLUBSnFOUR OF CLUBSoIVE OF CLUBSnSIX OF CLUBSoEVEN OF CLUBSnEIGHT O",
   "F CLUBSnNINE OF CLUBSnTEN OF CLUBSnJACK OF CLUBSnKNIGHT OF CLUBSnQUEEN OF CLUBSnKING OF CLUBSn",
   "WHITE JOKERnFOOLnTRUMP-1t2t3t4t5t6t7t8t9t10u1u2u3u4u5u6u7u8u9t20u1,1F100,aDIGIT ZERO FULL STOP",
   "lCOMMAgONE COMMAgTWO COMMAhHREE COMMAgFOUR COMMAhIVE COMMAgSIX COMMAhEVEN COMMAgEIGHT COMMAgNI",
   "NE COMMAcNGBAT CIRCLED SANS-SERIF DIGIT ZEROiNEGATIVE CIRCLED SANS-SERIF DIGIT ZEROaCIRCLED ZE",
   "RO WITH SLASHiANTICLOCKWISE ARROWiDOLLAR SIGN WITH OVERLAID BACKSLASHaPARENTHESIZED LATIN CAPI",
   "TAL LETTER A.B.C.D.E.F.G.H.I.J.K.L.M.N.O.P.Q.R.S.T.U.V.W.X.Y.ZaTORTOISE SHELL BRACKETED LATIN ",
   "CAPITAL LETTER SaCIRCLED ITALIC LATIN CAPITAL LETTER C/RiCDiWZbOPYLEFT SYMBOLaSQUARED LATIN CA",
   "PITAL LETTER A%B%C%D%E%F%G%H%I%J%K%L%M%N%O%P%Q%R%S%T%U%V%W%X%Y%ZiHViMViSDjSiPPViWCaNEGATIVE CI",
   "RCLED LATIN CAPITAL LETTER A;B;C;D;E;F;G;H;I;J;K;L;M;N;O;P;Q;R;S;T;U;V;W;X;Y;ZaRAISED MC SIGNi",
   "D SIGNiR SIGNaCIRCLED CCj WITH OVERLAID BACKSLASHiHUMAN FIGUREaNEGATIVE SQUARED LATIN CAPITAL ",
   "LETTER A;B;C;D;E;F;G;H;I;J;K;L;M;N;O;P;Q;R;S;T;U;V;W;X;Y;ZaCROSSED NEGATIVE SQUARED LATIN CAPI",
   "TAL LETTER PaNEGATIVE SQUARED ICrPArSArABrWCaSQUARE DJgD CLjOOLiFREEiIDiNEWjGiOKiSOSiUP WITH E",
   "XCLAMATION MARKiVSiTHREE DiSECOND SCREENiTWO KiFOUR KiEIGHT KiFIVE POINT ONEiSEVEN POINT ONEiT",
   "WENTY-TWO POINT TWOiSIXTY PiONE HUNDRED TWENTY PiLATIN SMALL LETTER DiHCjDRjI-RESiLOSSLESSiSHV",
   "iUHDiVODaMASK WORK SYMBOL,1F1E6,aREGIONAL INDICATOR SYMBOL LETTER A*B*C*D*E*F*G*H*I*J*K*L*M*N*",
   "O*P*Q*R*S*T*U*V*W*X*Y*ZaSQUARE HIRAGANA HOKAgD KATAKANA KOKOrSA,1F210,aSQUARED CJK UNIFIED IDE",
   "OGRAPH-624B&5B57(3CCiKATAKANA DEiCJK UNIFIED IDEOGRAPH-4E8C&591A&89E3&5929&4EA4&6620&7121&6599",
   "&524D(F8C(18D&65B0&521D&7D42(51F&8CA9&58F0(439&6F14(295(355&4E00*9&904A&5DE6&4E2D&53F3&6307&8D",
   "70&6253&7981(A7A&5408&6E80(709*8&7533&5272(5B6&914D,1F240,aTORTOISE SHELL BRACKETED CJK UNIFIE",
   "D IDEOGRAPH-672C_4E09~8C_5B89_70B9_6253_76D7_52DD_6557,1F250,aCIRCLED IDEOGRAPH ADVANTAGEtCCEP",
   "T,1F260,aROUNDED SYMBOL FOR FUtLUtSHOUtXItSHUANGXItCAI,1F300,aCYCLONEaFOGGYaCLOSED UMBRELLAaNI",
   "GHT WITH STARSaSUNRISE OVER MOUNTAINShaCITYSCAPE AT DUSKaSUNSET OVER BUILDINGSaRAINBOWaBRIDGE ",
   "AT NIGHTaWATER WAVEaVOLCANOaMILKY WAYaEARTH GLOBE EUROPE-AFRICAmAMERICASnSIA-AUSTRALIAaGLOBE W",
   "ITH MERIDIANSaNEW MOON SYMBOLaWAXING CRESCENT MOON SYMBOLaFIRST QUARTER MOON SYMBOLaWAXING GIB",
   "BOUS MOON SYMBOLaFULL MOON SYMBOLaWANING GIBBOUS MOON SYMBOLaLAST QUARTER MOON SYMBOLaWANING C",
   "RESCENT MOON SYMBOLaCRESCENT MOONaNEW MOON WITH FACEaFIRST QUARTER MOON WITH FACEaLAST QUARTER",
   " MOON WITH FACEaFULL MOON WITH FACEaSUN WITH FACEaGLOWING STARaSHOOTING STARaTHERMOMETERaBLACK",
   " DROPLETaWHITE SUNj WITH SMALL CLOUDkBEHIND CLOUDw WITH RAINaCLOUD WITH RAINlSNOWlLIGHTNINGlTO",
   "RNADOaFOGaWIND BLOWING FACEaHOT DOGaTACOaBURRITOaCHESTNUTaSEEDLINGaEVERGREEN TREEaDECIDUOUS TR",
   "EEaPALM TREEaCACTUSaHOT PEPPERaTULIPaCHERRY BLOSSOMaROSEaHIBISCUSaSUNFLOWERaBLOSSOMaEAR OF MAI",
   "ZEhRICEaHERBaFOUR LEAF CLOVERaMAPLE LEAFaFALLEN LEAFaLEAF FLUTTERING IN WINDaMUSHROOMaTOMATOaA",
   "UBERGINEaGRAPESaMELONaWATERMELONaTANGERINEaLEMONaBANANAaPINEAPPLEaRED APPLEaGREEN APPLEaPEARdC",
   "HaCHERRIESaSTRAWBERRYaHAMBURGERaSLICE OF PIZZAaMEAT ON BONEaPOULTRY LEGaRICE CRACKERfBALLaCOOK",
   "ED RICEbURRY AND RICEaSTEAMING BOWLbPAGHETTIaBREADaFRENCH FRIESaROASTED SWEET POTATOaDANGOaODE",
   "NaSUSHIaFRIED SHRIMPbISH CAKE WITH SWIRL DESIGNaSOFT ICE CREAMbHAVED ICEaICE CREAMaDOUGHNUTaCO",
   "OKIEbHOCOLATE BARbANDYaLOLLIPOPaCUSTARDaHONEY POTaSHORTCAKEaBENTO BOXaPOT OF FOODaCOOKINGaFORK",
   " AND KNIFEaTEACUP WITHOUT HANDLEaSAKE BOTTLE AND CUPaWINE GLASSaCOCKTAIL GLASSaTROPICAL DRINKa",
   "BEER MUGaCLINKING BEER MUGSaBABY BOTTLEaFORK AND KNIFE WITH PLATEaBOTTLE WITH POPPING CORKaPOP",
   "CORNaRIBBONaWRAPPED PRESENTaBIRTHDAY CAKEaJACK-O-LANTERNaCHRISTMAS TREEaFATHER CHRISTMASbIREWO",
   "RKSi SPARKLERaBALLOONaPARTY POPPERaCONFETTI BALLaTANABATA TREEaCROSSED FLAGSaPINE DECORATIONaJ",
   "APANESE DOLLSaCARP STREAMERaWIND CHIMEaMOON VIEWING CEREMONYaSCHOOL SATCHELaGRADUATION CAPaHEA",
   "RT WITH TIP ON THE LEFTaBOUQUET OF FLOWERSaMILITARY MEDALaREMINDER RIBBONaMUSICAL KEYBOARD WIT",
   "H JACKSaSTUDIO MICROPHONEaLEVEL SLIDERaCONTROL KNOBSaBEAMED ASCENDING MUSICAL NOTEShDESCENDING",
   " MUSICAL NOTESaFILM FRAMESaADMISSION TICKETSaCAROUSEL HORSEaFERRIS WHEELaROLLER COASTERaFISHIN",
   "G POLE AND FISHaMICROPHONEbOVIE CAMERAaCINEMAaHEADPHONEaARTIST PALETTEaTOP HATaCIRCUS TENTaTIC",
   "KETaCLAPPER BOARDaPERFORMING ARTSaVIDEO GAMEaDIRECT HITaSLOT MACHINEaBILLIARDSaGAME DIEaBOWLIN",
   "GaFLOWER PLAYING CARDSaMUSICAL NOTEcLTIPLE MUSICAL NOTESaSAXOPHONEaGUITARaMUSICAL KEYBOARDaTRU",
   "MPETaVIOLINaMUSICAL SCOREaRUNNING SHIRT WITH SASHaTENNIS RACQUET AND BALLaSKI AND SKI BOOTaBAS",
   "KETBALL AND HOOPaCHEQUERED FLAGaSNOWBOARDERaRUNNERaSURFERbPORTS MEDALaTROPHYaHORSE RACINGaAMER",
   "ICAN FOOTBALLaRUGBY FOOTBALLaSWIMMERaWEIGHT LIFTERaGOLFERaRACING MOTORCYCLEhCARaCRICKET BAT AN",
   "D BALLaVOLLEYBALLaFIELD HOCKEY STICK AND BALLaICE HOCKEY STICK AND PUCKaTABLE TENNIS PADDLE AN",
   "D BALLaSNOW CAPPED MOUNTAINaCAMPINGaBEACH WITH UMBRELLAbUILDING CONSTRUCTIONaHOUSE BUILDINGSaC",
   "ITYSCAPEaDERELICT HOUSE BUILDINGaCLASSICAL BUILDINGaDESERTg ISLANDaNATIONAL PARKaSTADIUMaHOUSE",
   " BUILDINGgWITH GARDENaOFFICE BUILDINGaJAPANESE POST OFFICEaEUROPEAN POST OFFICEaHOSPITALaBANKa",
   "AUTOMATED TELLER MACHINEaHOTELaLOVE HOTELaCONVENIENCE STOREaSCHOOLaDEPARTMENT STOREaFACTORYaIZ",
   "AKAYA LANTERNaJAPANESE CASTLEaEUROPEAN CASTLEaWHITE PENNANTaBLACK PENNANTaWAVING WHITE FLAGhBL",
   "ACK FLAGaROSETTEaBLACK ROSETTEaLABELaBADMINTON RACQUET AND SHUTTLECOCKbOW AND ARROWaAMPHORAaEM",
   "OJI MODIFIER FITZPATRICK TYPE-1-2)3)4)5)6aRATaMOUSEaOXaWATER BUFFALOaCOWaTIGERaLEOPARDaRABBITa",
   "CATaDRAGONaCROCODILEaWHALEaSNAILdKEaHORSEaRAMaGOATaSHEEPaMONKEYaROOSTERaCHICKENaDOGaPIGaBOARaE",
   "LEPHANTaOCTOPUSaSPIRAL SHELLaBUGaANTaHONEYBEEaLADY BEETLEaFISHaTROPICAL FISHaBLOWFISHaTURTLEaH",
   "ATCHING CHICKaBABY CHICKaFRONT-FACING BABY CHICKaBIRDaPENGUINaKOALAaPOODLEaDROMEDARY CAMELaBAC",
   "TRIAN CAMELaDOLPHINaMOUSE FACEaCOW FACEaTIGER FACEaRABBIT FACEaCAT FACEaDRAGON FACEaSPOUTING W",
   "HALEaHORSE FACEaMONKEY FACEaDOG FACEaPIG FACEaFROG FACEaHAMSTER FACEaWOLF FACEaBEAR FACEaPANDA",
   " FACEbIG NOSEbAW PRINTSaCHIPMUNKaEYESdbARaNOSEaMOUTHaTONGUEaWHITE UP POINTING BACKHAND INDEXgD",
   "OWN POINTING BACKHAND INDEXgLEFT POINTING BACKHAND INDEXgRIGHT POINTING BACKHAND INDEXaFISTED ",
   "HAND SIGNaWAVING HAND SIGNaOK HAND SIGNaTHUMBS UP SIGNhDOWN SIGNaCLAPPING HANDS SIGNaOPEN HAND",
   "S SIGNaCROWNaWOMANS HATaEYEGLASSESaNECKTIEaT-SHIRTaJEANSaDRESSaKIMONOaBIKINIaWOMANS CLOTHESaPU",
   "RSEaHANDBAGaPOUCHaMANS SHOEaATHLETIC SHOEaHIGH-HEELED SHOEaWOMANS SANDALhBOOTSaFOOTPRINTSaBUST",
   " IN SILHOUETTEeS IN SILHOUETTEbOYaGIRLaMANaWOMANaFAMILYaMAN AND WOMAN HOLDING HANDSaTWO MEN HO",
   "LDING HANDSeWOMEN HOLDING HANDSaPOLICE OFFICERaWOMAN WITH BUNNY EARSaBRIDE WITH VEILaPERSON WI",
   "TH BLOND HAIRaMAN WITH GUA PI MAOjTURBANaOLDER MANgWOMANaBABYaCONSTRUCTION WORKERaPRINCESSaJAP",
   "ANESE OGREjGOBLINaGHOSTaBABY ANGELaEXTRATERRESTRIAL ALIENaALIEN MONSTERaIMPaSKULLaINFORMATION ",
   "DESK PERSONaGUARDSMANaDANCERaLIPSTICKaNAIL POLISHaFACE MASSAGEaHAIRCUTaBARBER POLEaSYRINGEaPIL",
   "LaKISS MARKaLOVE LETTERaRINGaGEM STONEaKISSaBOUQUETaCOUPLE WITH HEARTaWEDDINGaBEATING HEARTbRO",
   "KEN HEARTaTWO HEARTSaSPARKLING HEARTaGROWING HEARTaHEART WITH ARROWaBLUE HEARTaGREEN HEARTaYEL",
   "LOW HEARTaPURPLE HEARTaHEART WITH RIBBONaREVOLVING HEARTSaHEART DECORATIONaDIAMOND SHAPE WITH ",
   "A DOT INSIDEaELECTRIC LIGHT BULBaANGER SYMBOLaBOMBaSLEEPING SYMBOLaCOLLISION SYMBOLaSPLASHING ",
   "SWEAT SYMBOLaDROPLETbASH SYMBOLaPILE OF POOaFLEXED BICEPSaDIZZY SYMBOLaSPEECH BALLOONaTHOUGHT ",
   "BALLOONaWHITE FLOWERaHUNDRED POINTS SYMBOLaMONEY BAGaCURRENCY EXCHANGEaHEAVY DOLLAR SIGNaCREDI",
   "T CARDaBANKNOTE WITH YEN SIGNoDOLLAR SIGNoEURO SIGNoPOUND SIGNaMONEY WITH WINGSaCHART WITH UPW",
   "ARDS TREND AND YEN SIGNaSEATaPERSONAL COMPUTERaBRIEFCASEaMINIDISCaFLOPPY DISKaOPTICAL DISCaDVD",
   "aFILE FOLDERaOPEN FILE FOLDERaPAGE WITH CURLfFACING UPaCALENDARaTEAR-OFF CALENDARaCARD INDEXbH",
   "ART WITH UPWARDS TRENDlDOWNWARDS TRENDaBAR CHARTaCLIPBOARDaPUSHPINaROUND PUSHPINaPAPERCLIPaSTR",
   "AIGHT RULERaTRIANGULAR RULERaBOOKMARK TABSaLEDGERaNOTEBOOKi WITH DECORATIVE COVERaCLOSED BOOKa",
   "OPEN BOOKaGREEN BOOKaBLUE BOOKaORANGE BOOKaBOOKSaNAME BADGEaSCROLLaMEMOaTELEPHONE RECEIVERaPAG",
   "ERaFAX MACHINEaSATELLITE ANTENNAaPUBLIC ADDRESS LOUDSPEAKERaCHEERING MEGAPHONEaOUTBOX TRAYaINB",
   "OX TRAYaPACKAGEaE-MAIL SYMBOLaINCOMING ENVELOPEaENVELOPE WITH DOWNWARDS ARROW ABOVEaCLOSED MAI",
   "LBOX WITH LOWERED FLAGuRAISED FLAGaOPEN MAILBOX WITH RAISED FLAGsLOWERED FLAGaPOSTBOXeAL HORNa",
   "NEWSPAPERaMOBILE PHONEm WITH RIGHTWARDS ARROW AT LEFTaVIBRATION MODEaMOBILE PHONE OFFaNO MOBIL",
   "E PHONESaANTENNA WITH BARSaCAMERAg WITH FLASHaVIDEO CAMERAaTELEVISIONaRADIOaVIDEOCASSETTEaFILM",
   " PROJECTORaPORTABLE STEREObRAYER BEADSaTWISTED RIGHTWARDS ARROWSaCLOCKWISE RIGHTWARDS AND LEFT",
   "WARDS OPEN CIRCLE ARROWS~ROWS WITH CIRCLED ONE OVERLAYkDOWNWARDS AND UPWARDS OPEN CIRCLE ARROW",
   "SaANTICLOCKWISE DOWNWARDS AND UPWARDS OPEN CIRCLE ARROWSaLOW BRIGHTNESS SYMBOLaHIGH BRIGHTNESS",
   " SYMBOLaSPEAKER WITH CANCELLATION STROKEhh WITH ONE SOUND WAVEnTHREE SOUND WAVESaBATTERYaELECT",
   "RIC PLUGaLEFT-POINTING MAGNIFYING GLASSaRIGHT-POINTING MAGNIFYING GLASSaLOCK WITH INK PENaCLOS",
   "ED LOCK WITH KEYaKEYaLOCKaOPEN LOCKaBELLe WITH CANCELLATION STROKEbOOKMARKaLINK SYMBOLaRADIO B",
   "UTTONaBACK WITH LEFTWARDS ARROW ABOVEaEND WITH LEFTWARDS ARROW ABOVEaON WITH EXCLAMATION MARK ",
   "WITH LEFT RIGHT ARROW ABOVEaSOON WITH RIGHTWARDS ARROW ABOVEaTOP WITH UPWARDS ARROW ABOVEaNO O",
   "NE UNDER EIGHTEEN SYMBOLaKEYCAP TENaINPUT SYMBOL FOR LATIN CAPITAL LETTERSxSMALL LETTERSrNUMBE",
   "RSrSYMBOLSrLATIN LETTERSaFIREaELECTRIC TORCHaWRENCHaHAMMERaNUT AND BOLTaHOCHOaPISTOLaMICROSCOP",
   "EaTELESCOPEaCRYSTAL BALLaSIX POINTED STAR WITH MIDDLE DOTaJAPANESE SYMBOL FOR BEGINNERaTRIDENT",
   " EMBLEMaBLACK SQUARE BUTTONaWHITE SQUARE BUTTONaLARGE RED CIRCLEgBLUE CIRCLEgORANGE DIAMONDgBL",
   "UE DIAMONDaSMALL ORANGE DIAMONDgBLUE DIAMONDaUP-POINTING RED TRIANGLEaDOWN-POINTING RED TRIANG",
   "LEaUP-POINTING SMALL RED TRIANGLEaDOWN-POINTING SMALL RED TRIANGLEaLOWER RIGHT SHADOWED WHITE ",
   "CIRCLEaUPPER RIGHT SHADOWED WHITE CIRCLEaCIRCLED CROSS POMMEEbROSS POMMEE WITH HALF-CIRCLE BEL",
   "OWmaNOTCHED LEFT SEMICIRCLE WITH THREE DOTSiRIGHT SEMICIRCLE WITH THREE DOTSaSYMBOL FOR MARKS ",
   "CHAPTERaWHITE LATIN CROSSaHEAVY LATIN CROSSaCELTIC CROSSaOM SYMBOLaDOVE OF PEACEaKAABAaMOSQUEa",
   "SYNAGOGUEaMENORAH WITH NINE BRANCHESaBOWL OF HYGIEIAaCLOCK FACE ONE OCLOCKlTWO OCLOCKmHREE OCL",
   "OCKlFOUR OCLOCKmIVE OCLOCKlSIX OCLOCKmEVEN OCLOCKlEIGHT OCLOCKlNINE OCLOCKlTEN OCLOCKlELEVEN O",
   "CLOCKlTWELVE OCLOCKlONE-THIRTYlTWO-THIRTYmHREE-THIRTYlFOUR-THIRTYmIVE-THIRTYlSIX-THIRTYmEVEN-T",
   "HIRTYlEIGHT-THIRTYlNINE-THIRTYlTEN-THIRTYlELEVEN-THIRTYlTWELVE-THIRTYaRIGHT SPEAKERn WITH ONE ",
   "SOUND WAVEtTHREE SOUND WAVESaBULLHORNi WITH SOUND WAVESaRINGING BELLaBOOKaCANDLEaMANTELPIECE C",
   "LOCKaBLACK SKULL AND CROSSBONESaNO PIRACYaHOLEaMAN IN BUSINESS SUIT LEVITATINGaSLEUTH OR SPYaD",
   "ARK SUNGLASSESaSPIDERg WEBaJOYSTICKaMAN DANCINGaLEFT HAND TELEPHONE RECEIVERaTELEPHONE RECEIVE",
   "R WITH PAGEaRIGHT HAND TELEPHONE RECEIVERaWHITE TOUCHTONE TELEPHONEaBLACK TOUCHTONE TELEPHONEa",
   "TELEPHONE ON TOP OF MODEMaCLAMSHELL MOBILE PHONEaBACK OF ENVELOPEaSTAMPED ENVELOPEaENVELOPE WI",
   "TH LIGHTNINGaFLYING ENVELOPEaPEN OVER STAMPED ENVELOPEaLINKED PAPERCLIPSaBLACK PUSHPINaLOWER L",
   "EFT PENCILlBALLPOINT PENlFOUNTAIN PENlPAINTBRUSHlCRAYONbEFT WRITING HANDaTURNED OK HAND SIGNaR",
   "AISED HAND WITH FINGERS SPLAYEDbEVERSED RAISED HAND WITH FINGERS SPLAYEDjTHUMBS UP SIGNqDOWN S",
   "IGNjVICTORY HANDjHAND WITH MIDDLE FINGER EXTENDEDbAISED HAND WITH PART BETWEEN MIDDLE AND RING",
   " FINGERSaWHITE DOWN POINTING LEFT HAND INDEXaSIDEWAYS WHITE LEFT POINTING INDEXpRIGHT POINTING",
   " INDEXjBLACK LEFT POINTING INDEXpRIGHT POINTING INDEXaBLACK LEFT POINTING BACKHAND INDEXgRIGHT",
   " POINTING BACKHAND INDEXaSIDEWAYS WHITE UP POINTING INDEXpDOWN POINTING INDEXjBLACK UP POINTIN",
   "G INDEXpDOWN POINTING INDEXaBLACK UP POINTING BACKHAND INDEXgDOWN POINTING BACKHAND INDEXgHEAR",
   "TaDESKTOP COMPUTERaKEYBOARD AND MOUSEaTHREE NETWORKED COMPUTERSaPRINTERbOCKET CALCULATORaBLACK",
   " HARD SHELL FLOPPY DISKaWHITE HARD SHELL FLOPPY DISKaSOFT SHELL FLOPPY DISKaTAPE CARTRIDGEaWIR",
   "ED KEYBOARDaONE BUTTON MOUSEaTWO BUTTON MOUSEbHREE BUTTON MOUSEbRACKBALLaOLD PERSONAL COMPUTER",
   "aHARD DISKaSCREENaPRINTER ICONaFAX ICONaOPTICAL DISC ICONaDOCUMENT WITH TEXTs AND PICTUREoPICT",
   "UREaFRAME WITH PICTURElTILESlAN XaBLACK FOLDERaFOLDERaOPEN FOLDERaCARD INDEX DIVIDERSfFILE BOX",
   "aFILE CABINETaEMPTY NOTEk PAGEnDaNOTEe PAGEhDaEMPTY DOCUMENTgPAGEkSaDOCUMENTaPAGEeSaWASTEBASKE",
   "TaSPIRAL NOTE PADhCALENDAR PADaDESKTOP WINDOWaMINIMIZEbAXIMIZEaOVERLAPaCLOCKWISE RIGHT AND LEF",
   "T SEMICIRCLE ARROWSbANCELLATION XaINCREASE FONT SIZE SYMBOLaDECREASE FONT SIZE SYMBOLaCOMPRESS",
   "IONaOLD KEYaROLLED-UP NEWSPAPERaPAGE WITH CIRCLED TEXTaSTOCK CHARTaDAGGER KNIFEaLIPSaSPEAKING ",
   "HEAD IN SILHOUETTEaTHREE RAYS ABOVElBELOWlLEFTlRIGHTaLEFT SPEECH BUBBLEaRIGHT SPEECH BUBBLEaTW",
   "O SPEECH BUBBLESbHREE SPEECH BUBBLESaLEFT THOUGHT BUBBLEaRIGHT THOUGHT BUBBLEaLEFT ANGER BUBBL",
   "EaRIGHT ANGER BUBBLEaMOOD BUBBLEaLIGHTNING MOOD BUBBLEoaBALLOT BOX WITH BALLOThSCRIPT XhBOX WI",
   "TH SCRIPT XjLD SCRIPT XjX WITH BOLD SCRIPT XaLIGHT CHECK MARKaBALLOT BOX WITH BOLD CHECKaWORLD",
   " MAPaMOUNT FUJIaTOKYO TOWERaSTATUE OF LIBERTYbILHOUETTE OF JAPANaMOYAIaGRINNING FACEn WITH SMI",
   "LING EYESaFACE WITH TEARS OF JOYaSMILING FACE WITH OPEN MOUTH$ AND SMILING EYES*COLD SWEAT*TIG",
   "HTLY-CLOSED EYESsHALOtORNSaWINKING FACEaSMILING FACE WITH SMILING EYESaFACE SAVOURING DELICIOU",
   "S FOODaRELIEVED FACEaSMILING FACE WITH HEART-SHAPED EYESsSUNGLASSESdRKING FACEaNEUTRAL FACEaEX",
   "PRESSIONLESS FACEaUNAMUSED FACEaFACE WITH COLD SWEATaPENSIVE FACEaCONFUSED FACEeOUNDED FACEaKI",
   "SSING FACEaFACE THROWING A KISSaKISSING FACE WITH SMILING EYESsCLOSED EYESaFACE WITH STUCK-OUT",
   " TONGUE! AND WINKING EYE(TIGHTLY-CLOSED EYESaDISAPPOINTED FACEaWORRIED FACEaANGRY FACEaPOUTING",
   " FACEaCRYING FACEaPERSEVERING FACEaFACE WITH LOOK OF TRIUMPHaDISAPPOINTED BUT RELIEVED FACEaFR",
   "OWNING FACE WITH OPEN MOUTHaANGUISHED FACEaFEARFUL FACEaWEARY FACEaSLEEPY FACEaTIRED FACEaGRIM",
   "ACING FACEaLOUDLY CRYING FACEaFACE WITH OPEN MOUTHaHUSHED FACEaFACE WITH OPEN MOUTH AND COLD S",
   "WEATfSCREAMING IN FEARaASTONISHED FACEaFLUSHED FACEaSLEEPING FACEaDIZZY FACEaFACE WITHOUT MOUT",
   "Hj MEDICAL MASKaGRINNING CAT FACE WITH SMILING EYESaCAT FACE WITH TEARS OF JOYaSMILING CAT FAC",
   "E WITH OPEN MOUTHwHEART-SHAPED EYESaCAT FACE WITH WRY SMILEaKISSING CAT FACE WITH CLOSED EYESa",
   "POUTING CAT FACEaCRYING CAT FACEaWEARY CAT FACEaSLIGHTLY FROWNING FACEjSMILING FACEaUPSIDE-DOW",
   "N FACEaFACE WITH ROLLING EYESkNO GOOD GESTUREkOK GESTUREaPERSON BOWING DEEPLYaSEE-NO-EVIL MONK",
   "EYaHEAR-NO-EVIL MONKEYaSPEAK-NO-EVIL MONKEYaHAPPY PERSON RAISING ONE HANDaPERSON RAISING BOTH ",
   "HANDS IN CELEBRATIONhFROWNINGhWITH POUTING FACEmFOLDED HANDSaNORTH WEST POINTING LEAFaSOUTH WE",
   "ST POINTING LEAFaNORTH EAST POINTING LEAFaSOUTH EAST POINTING LEAFaTURNED NORTH WEST POINTING ",
   "LEAFhSOUTH WEST POINTING LEAFhNORTH EAST POINTING LEAFhSOUTH EAST POINTING LEAFaNORTH WEST POI",
   "NTING VINE LEAFaSOUTH WEST POINTING VINE LEAFaNORTH EAST POINTING VINE LEAFaSOUTH EAST POINTIN",
   "G VINE LEAFaHEAVY NORTH WEST POINTING VINE LEAFgSOUTH WEST POINTING VINE LEAFgNORTH EAST POINT",
   "ING VINE LEAFgSOUTH EAST POINTING VINE LEAFaNORTH WEST POINTING BUDaSOUTH WEST POINTING BUDaNO",
   "RTH EAST POINTING BUDaSOUTH EAST POINTING BUDaHEAVY NORTH WEST POINTING BUDgSOUTH WEST POINTIN",
   "G BUDgNORTH EAST POINTING BUDgSOUTH EAST POINTING BUDbOLLOW QUILT SQUARE ORNAMENT$ IN BLACK SQ",
   "UAREaSOLID QUILT SQUARE ORNAMENT# IN BLACK SQUAREaLEFTWARDS ROCKETaUPWARDS ROCKETaRIGHTWARDS R",
   "OCKETaDOWNWARDS ROCKETaSCRIPT LIGATURE ET ORNAMENTaHEAVY SCRIPT LIGATURE ET ORNAMENTaLIGATURE ",
   "OPEN ET ORNAMENTaHEAVY LIGATURE OPEN ET ORNAMENTgAMPERSAND ORNAMENTaSWASH AMPERSAND ORNAMENTbA",
   "NS-SERIF HEAVY DOUBLE TURNED COMMA QUOTATION MARK ORNAMENTyCOMMA QUOTATION MARK ORNAMENTrLOW D",
   "OUBLE COMMA QUOTATION MARK ORNAMENTaHEAVY INTERROBANG ORNAMENTaSANS-SERIF INTERROBANG ORNAMENT",
   "aHEAVY SANS-SERIF INTERROBANG ORNAMENTaVERY HEAVY SOLIDUSlREVERSE SOLIDUSaCHECKER BOARDaREVERS",
   "E CHECKER BOARDbOCKETaHELICOPTERaSTEAM LOCOMOTIVEaRAILWAY CARaHIGH-SPEED TRAINq WITH BULLET NO",
   "SEaTRAINaMETROaLIGHT RAILaSTATIONaTRAMe CARaBUSaONCOMING BUSaTROLLEYBUSaBUS STOPaMINIBUSaAMBUL",
   "ANCEaFIRE ENGINEaPOLICE CARaONCOMING POLICE CARaTAXIaONCOMING TAXIaAUTOMOBILEaONCOMING AUTOMOB",
   "ILEaRECREATIONAL VEHICLEaDELIVERY TRUCKaARTICULATED LORRYaTRACTORaMONORAILcUNTAIN RAILWAYaSUSP",
   "ENSION RAILWAYaMOUNTAIN CABLEWAYaAERIAL TRAMWAYaSHIPaROWBOATaSPEEDBOATaHORIZONTAL TRAFFIC LIGH",
   "TaVERTICAL TRAFFIC LIGHTaCONSTRUCTION SIGNaPOLICE CARS REVOLVING LIGHTaTRIANGULAR FLAG ON POST",
   "aDOORaNO ENTRY SIGNaSMOKING SYMBOLaNO SMOKING SYMBOLaPUT LITTER IN ITS PLACE SYMBOLaDO NOT LIT",
   "TER SYMBOLaPOTABLE WATER SYMBOLaNON-POTABLE WATER SYMBOLaBICYCLEaNO BICYCLESaBICYCLISTaMOUNTAI",
   "N BICYCLISTaPEDESTRIANaNO PEDESTRIANSaCHILDREN CROSSINGaMENS SYMBOLaWOMENS SYMBOLaRESTROOMaBAB",
   "Y SYMBOLaTOILETaWATER CLOSETaSHOWERaBATHeTUBaPASSPORT CONTROLaCUSTOMSaBAGGAGE CLAIMaLEFT LUGGA",
   "GEaTRIANGLE WITH ROUNDED CORNERSaPROHIBITED SIGNaCIRCLED INFORMATION SOURCEaBOYS SYMBOLaGIRLS ",
   "SYMBOLaCOUCH AND LAMPaSLEEPING ACCOMMODATIONbHOPPING BAGSaBELLHOP BELLcDaPLACE OF WORSHIPaOCTA",
   "GONAL SIGNaSHOPPING TROLLEYbTUPAaPAGODAaHINDU TEMPLEbUTaELEVATOR,1F6DD,aPLAYGROUND SLIDEaWHEEL",
   "aRING BUOYaHAMMER AND WRENCHaSHIELDaOIL DRUMaMOTORWAYaRAILWAY TRACKaMOTOR BOATaUP-POINTING MIL",
   "ITARY AIRPLANEmAIRPLANEmSMALL AIRPLANEaSMALL AIRPLANEaNORTHEAST-POINTING AIRPLANEaAIRPLANE DEP",
   "ARTUREjARRIVING,1F6F0,aSATELLITEaONCOMING FIRE ENGINEaDIESEL LOCOMOTIVEaPASSENGER SHIPaSCOOTER",
   "aMOTOR SCOOTERaCANOEaSLEDaFLYING SAUCERaSKATEBOARDaAUTO RICKSHAWaPICKUP TRUCKaROLLER SKATE,1F7",
   "00,aALCHEMICAL SYMBOL FOR QUINTESSENCEwAIRwFIREwEARTHwWATERwAQUAFORTIS! REGIA)-2#VITAE)-2wVINE",
   "GAR%-2&3wSULFURwPHILOSOPHERS SULFURwBLACK SULFURwMERCURY SUBLIMATE<-2=3wCINNABARwSALTwNITREwVI",
   "TRIOL%-2wROCK SALT(-2wGOLDwSILVERwIRON ORE&-2wCROCUS OF IRONwREGULUS OF IRONwCOPPER OREwIRON-C",
   "OPPER OREwSUBLIMATE OF COPPERwCROCUS OF COPPER;-2xOPPER ANTIMONIATEwSALT OF COPPER ANTIMONIATE",
   "xUBLIMATE OF SALT OF COPPERwVERDIGRISwTIN OREwLEAD OREwANTIMONY OREwSUBLIMATE OF ANTIMONYxALT ",
   "OF ANTIMONYxUBLIMATE OF SALT OF ANTIMONYwVINEGAR OF ANTIMONYwREGULUS OF ANTIMONY>-2%%-2&3&4wAL",
   "KALI$-2wMARCASITEwSAL-AMMONIACwARSENICwREALGAR%-2wAURIPIGMENTwBISMUTH OREwTARTAR$-2wQUICK LIME",
   "wBORAX#-2$3wALUMwOILwSPIRITwTINCTUREwGUMwWAXwPOWDERwCALXwTUTTYwCAPUT MORTUUMwSCEPTER OF JOVEwC",
   "ADUCEUSwTRIDENTwSTARRED TRIDENTwLODESTONEwSOAPwURINEwHORSE DUNGwASHESwPOT ASHESwBRICKwPOWDERED",
   " BRICKwAMALGAMwSTRATUM SUPER STRATUM@-2xUBLIMATIONwPRECIPITATEwDISTILLzSOLVE&-2wPURIFYyTREFACT",
   "IONwCRUCIBLE&-2(3(4(5wALEMBICwBATH OF MARY&VAPOURSwRETORTwHOURwNIGHTwDAY-NIGHTwMONTHwHALF DRAM",
   "#OUNCE,1F780,aBLACK LEFT-POINTING ISOSCELES RIGHT TRIANGLEgUP-POINTING ISOSCELES RIGHT TRIANGL",
   "EgRIGHT-POINTING ISOSCELES RIGHT TRIANGLEgDOWN-POINTING ISOSCELES RIGHT TRIANGLEgSLIGHTLY SMAL",
   "L CIRCLEaMEDIUM BOLD WHITE CIRCLEaBOLD WHITE CIRCLEaHEAVY WHITE CIRCLEaVERY HEAVY WHITE CIRCLE",
   "aEXTREMELY HEAVY WHITE CIRCLEaWHITE CIRCLE CONTAINING BLACK SMALL CIRCLEaROUND TARGETaBLACK TI",
   "NY SQUAREgSLIGHTLY SMALL SQUAREaLIGHT WHITE SQUAREaMEDIUM WHITE SQUAREaBOLD WHITE SQUAREaHEAVY",
   " WHITE SQUAREaVERY HEAVY WHITE SQUAREaEXTREMELY HEAVY WHITE SQUAREaWHITE SQUARE CONTAINING BLA",
   "CK VERY SMALL SQUARE&MEDIUM SQUAREaSQUARE TARGETaBLACK TINY DIAMONDgVERY SMALL DIAMONDgMEDIUM ",
   "SMALL DIAMONDaWHITE DIAMOND CONTAINING BLACK VERY SMALL DIAMOND(MEDIUM DIAMONDaDIAMOND TARGETa",
   "BLACK TINY LOZENGEgVERY SMALL LOZENGEgMEDIUM SMALL LOZENGEaWHITE LOZENGE CONTAINING BLACK SMAL",
   "L LOZENGEaTHIN GREEK CROSSaLIGHT GREEK CROSSaMEDIUM GREEK CROSSaBOLD GREEK CROSSaVERY BOLD GRE",
   "EK CROSSfHEAVY GREEK CROSSaEXTREMELY HEAVY GREEK CROSSaTHIN SALTIREaLIGHT SALTIREaMEDIUM SALTI",
   "REaBOLD SALTIREaHEAVY SALTIREaVERY HEAVY SALTIREaEXTREMELY HEAVY SALTIREaLIGHT FIVE SPOKED AST",
   "ERISKaMEDIUM FIVE SPOKED ASTERISKaBOLD FIVE SPOKED ASTERISKaHEAVY FIVE SPOKED ASTERISKaVERY HE",
   "AVY FIVE SPOKED ASTERISKaEXTREMELY HEAVY FIVE SPOKED ASTERISKaLIGHT SIX SPOKED ASTERISKaMEDIUM",
   " SIX SPOKED ASTERISKaBOLD SIX SPOKED ASTERISKaHEAVY SIX SPOKED ASTERISKaVERY HEAVY SIX SPOKED ",
   "ASTERISKaEXTREMELY HEAVY SIX SPOKED ASTERISKaLIGHT EIGHT SPOKED ASTERISKaMEDIUM EIGHT SPOKED A",
   "STERISKaBOLD EIGHT SPOKED ASTERISKaHEAVY EIGHT SPOKED ASTERISKaVERY HEAVY EIGHT SPOKED ASTERIS",
   "KaLIGHT THREE POINTED BLACK STARaMEDIUM THREE POINTED BLACK STARaTHREE POINTED BLACK STARaMEDI",
   "UM THREE POINTED PINWHEEL STARaLIGHT FOUR POINTED BLACK STARaMEDIUM FOUR POINTED BLACK STARaFO",
   "UR POINTED BLACK STARaMEDIUM FOUR POINTED PINWHEEL STARaREVERSE LIGHT FOUR POINTED PINWHEEL ST",
   "ARaLIGHT FIVE POINTED BLACK STARaHEAVY FIVE POINTED BLACK STARaMEDIUM SIX POINTED BLACK STARaH",
   "EAVY SIX POINTED BLACK STARaSIX POINTED PINWHEEL STARaMEDIUM EIGHT POINTED BLACK STARaHEAVY EI",
   "GHT POINTED BLACK STARaVERY HEAVY EIGHT POINTED BLACK STARaHEAVY EIGHT POINTED PINWHEEL STARaL",
   "IGHT TWELVE POINTED BLACK STARaHEAVY TWELVE POINTED BLACK STARvPINWHEEL STARaCIRCLED TRIANGLEa",
   "NEGATIVE CIRCLED TRIANGLEaCIRCLED SQUAREaNEGATIVE CIRCLED SQUARE,1F7E0,aLARGE ORANGE CIRCLEgYE",
   "LLOW CIRCLEgGREEN CIRCLEgPURPLE CIRCLEgBROWN CIRCLEgRED SQUAREgBLUE SQUAREgORANGE SQUAREgYELLO",
   "W SQUAREgGREEN SQUAREgPURPLE SQUAREgBROWN SQUARE,1F7F0,aHEAVY EQUALS SIGN,1F800,aLEFTWARDS ARR",
   "OW WITH SMALL TRIANGLE ARROWHEADaUPWARDS ARROW WITH SMALL TRIANGLE ARROWHEADaRIGHTWARDS ARROW ",
   "WITH SMALL TRIANGLE ARROWHEADaDOWNWARDS ARROW WITH SMALL TRIANGLE ARROWHEADaLEFTWARDS ARROW WI",
   "TH MEDIUM TRIANGLE ARROWHEADaUPWARDS ARROW WITH MEDIUM TRIANGLE ARROWHEADaRIGHTWARDS ARROW WIT",
   "H MEDIUM TRIANGLE ARROWHEADaDOWNWARDS ARROW WITH MEDIUM TRIANGLE ARROWHEADaLEFTWARDS ARROW WIT",
   "H LARGE TRIANGLE ARROWHEADaUPWARDS ARROW WITH LARGE TRIANGLE ARROWHEADaRIGHTWARDS ARROW WITH L",
   "ARGE TRIANGLE ARROWHEADaDOWNWARDS ARROW WITH LARGE TRIANGLE ARROWHEAD,1F810,aLEFTWARDS ARROW W",
   "ITH SMALL EQUILATERAL ARROWHEADaUPWARDS ARROW WITH SMALL EQUILATERAL ARROWHEADaRIGHTWARDS ARRO",
   "W WITH SMALL EQUILATERAL ARROWHEADaDOWNWARDS ARROW WITH SMALL EQUILATERAL ARROWHEADaLEFTWARDS ",
   "ARROW WITH EQUILATERAL ARROWHEADaUPWARDS ARROW WITH EQUILATERAL ARROWHEADaRIGHTWARDS ARROW WIT",
   "H EQUILATERAL ARROWHEADaDOWNWARDS ARROW WITH EQUILATERAL ARROWHEADaHEAVY LEFTWARDS ARROW WITH ",
   "EQUILATERAL ARROWHEADgUPWARDS ARROW WITH EQUILATERAL ARROWHEADgRIGHTWARDS ARROW WITH EQUILATER",
   "AL ARROWHEADgDOWNWARDS ARROW WITH EQUILATERAL ARROWHEADgLEFTWARDS ARROW WITH LARGE EQUILATERAL",
   " ARROWHEADgUPWARDS ARROW WITH LARGE EQUILATERAL ARROWHEADgRIGHTWARDS ARROW WITH LARGE EQUILATE",
   "RAL ARROWHEADgDOWNWARDS ARROW WITH LARGE EQUILATERAL ARROWHEADaLEFTWARDS TRIANGLE-HEADED ARROW",
   " WITH NARROW SHAFTaUPWARDS TRIANGLE-HEADED ARROW WITH NARROW SHAFTaRIGHTWARDS TRIANGLE-HEADED ",
   "ARROW WITH NARROW SHAFTaDOWNWARDS TRIANGLE-HEADED ARROW WITH NARROW SHAFTaLEFTWARDS TRIANGLE-H",
   "EADED ARROW WITH MEDIUM SHAFTaUPWARDS TRIANGLE-HEADED ARROW WITH MEDIUM SHAFTaRIGHTWARDS TRIAN",
   "GLE-HEADED ARROW WITH MEDIUM SHAFTaDOWNWARDS TRIANGLE-HEADED ARROW WITH MEDIUM SHAFTaLEFTWARDS",
   " TRIANGLE-HEADED ARROW WITH BOLD SHAFTaUPWARDS TRIANGLE-HEADED ARROW WITH BOLD SHAFTaRIGHTWARD",
   "S TRIANGLE-HEADED ARROW WITH BOLD SHAFTaDOWNWARDS TRIANGLE-HEADED ARROW WITH BOLD SHAFTaLEFTWA",
   "RDS TRIANGLE-HEADED ARROW WITH HEAVY SHAFTaUPWARDS TRIANGLE-HEADED ARROW WITH HEAVY SHAFTaRIGH",
   "TWARDS TRIANGLE-HEADED ARROW WITH HEAVY SHAFTaDOWNWARDS TRIANGLE-HEADED ARROW WITH HEAVY SHAFT",
   "aLEFTWARDS TRIANGLE-HEADED ARROW WITH VERY HEAVY SHAFTaUPWARDS TRIANGLE-HEADED ARROW WITH VERY",
   " HEAVY SHAFTaRIGHTWARDS TRIANGLE-HEADED ARROW WITH VERY HEAVY SHAFTaDOWNWARDS TRIANGLE-HEADED ",
   "ARROW WITH VERY HEAVY SHAFTaLEFTWARDS FINGER-POST ARROWaUPWARDS FINGER-POST ARROWaRIGHTWARDS F",
   "INGER-POST ARROWaDOWNWARDS FINGER-POST ARROWaLEFTWARDS SQUARED ARROWaUPWARDS SQUARED ARROWaRIG",
   "HTWARDS SQUARED ARROWaDOWNWARDS SQUARED ARROWaLEFTWARDS COMPRESSED ARROWaUPWARDS COMPRESSED AR",
   "ROWaRIGHTWARDS COMPRESSED ARROWaDOWNWARDS COMPRESSED ARROWaLEFTWARDS HEAVY COMPRESSED ARROWaUP",
   "WARDS HEAVY COMPRESSED ARROWaRIGHTWARDS HEAVY COMPRESSED ARROWaDOWNWARDS HEAVY COMPRESSED ARRO",
   "WaLEFTWARDS HEAVY ARROWaUPWARDS HEAVY ARROWaRIGHTWARDS HEAVY ARROWaDOWNWARDS HEAVY ARROW,1F850",
   ",aLEFTWARDS SANS-SERIF ARROWaUPWARDS SANS-SERIF ARROWaRIGHTWARDS SANS-SERIF ARROWaDOWNWARDS SA",
   "NS-SERIF ARROWaNORTH WEST SANS-SERIF ARROWgEAST SANS-SERIF ARROWaSOUTH EAST SANS-SERIF ARROWgW",
   "EST SANS-SERIF ARROWaLEFT RIGHT SANS-SERIF ARROWaUP DOWN SANS-SERIF ARROW,1F860,aWIDE-HEADED L",
   "EFTWARDS LIGHT BARB ARROWmUPWARDS LIGHT BARB ARROWmRIGHTWARDS LIGHT BARB ARROWmDOWNWARDS LIGHT",
   " BARB ARROWmNORTH WEST LIGHT BARB ARROWsEAST LIGHT BARB ARROWmSOUTH EAST LIGHT BARB ARROWsWEST",
   " LIGHT BARB ARROWmLEFTWARDS BARB ARROWmUPWARDS BARB ARROWmRIGHTWARDS BARB ARROWmDOWNWARDS BARB",
   " ARROWmNORTH WEST BARB ARROWsEAST BARB ARROWmSOUTH EAST BARB ARROWsWEST BARB ARROWmLEFTWARDS M",
   "EDIUM BARB ARROWmUPWARDS MEDIUM BARB ARROWmRIGHTWARDS MEDIUM BARB ARROWmDOWNWARDS MEDIUM BARB ",
   "ARROWmNORTH WEST MEDIUM BARB ARROWsEAST MEDIUM BARB ARROWmSOUTH EAST MEDIUM BARB ARROWsWEST ME",
   "DIUM BARB ARROWmLEFTWARDS HEAVY BARB ARROWmUPWARDS HEAVY BARB ARROWmRIGHTWARDS HEAVY BARB ARRO",
   "WmDOWNWARDS HEAVY BARB ARROWmNORTH WEST HEAVY BARB ARROWsEAST HEAVY BARB ARROWmSOUTH EAST HEAV",
   "Y BARB ARROWsWEST HEAVY BARB ARROWmLEFTWARDS VERY HEAVY BARB ARROWmUPWARDS VERY HEAVY BARB ARR",
   "OWmRIGHTWARDS VERY HEAVY BARB ARROWmDOWNWARDS VERY HEAVY BARB ARROWmNORTH WEST VERY HEAVY BARB",
   " ARROWsEAST VERY HEAVY BARB ARROWmSOUTH EAST VERY HEAVY BARB ARROWsWEST VERY HEAVY BARB ARROW,",
   "1F890,aLEFTWARDS TRIANGLE ARROWHEADaUPWARDS TRIANGLE ARROWHEADaRIGHTWARDS TRIANGLE ARROWHEADaD",
   "OWNWARDS TRIANGLE ARROWHEADaLEFTWARDS WHITE ARROW WITHIN TRIANGLE ARROWHEADaUPWARDS WHITE ARRO",
   "W WITHIN TRIANGLE ARROWHEADaRIGHTWARDS WHITE ARROW WITHIN TRIANGLE ARROWHEADaDOWNWARDS WHITE A",
   "RROW WITHIN TRIANGLE ARROWHEADaLEFTWARDS ARROW WITH NOTCHED TAILaUPWARDS ARROW WITH NOTCHED TA",
   "ILaRIGHTWARDS ARROW WITH NOTCHED TAILaDOWNWARDS ARROW WITH NOTCHED TAILaHEAVY ARROW SHAFT WIDT",
   "H ONEyTWO THIRDSyONE HALF$THIRDaLEFTWARDS BOTTOM-SHADED WHITE ARROWaRIGHTWARDS BOTTOM SHADED W",
   "HITE ARROWaLEFTWARDS TOP SHADED WHITE ARROWaRIGHTWARDS TOP SHADED WHITE ARROWaLEFTWARDS LEFT-S",
   "HADED WHITE ARROWaRIGHTWARDS RIGHT-SHADED WHITE ARROWaLEFTWARDS RIGHT-SHADED WHITE ARROWaRIGHT",
   "WARDS LEFT-SHADED WHITE ARROWaLEFTWARDS BACK-TILTED SHADOWED WHITE ARROWaRIGHTWARDS BACK-TILTE",
   "D SHADOWED WHITE ARROWaLEFTWARDS FRONT-TILTED SHADOWED WHITE ARROWaRIGHTWARDS FRONT-TILTED SHA",
   "DOWED WHITE ARROWaWHITE ARROW SHAFT WIDTH ONEyTWO THIRDS,1F8B0,aARROW POINTING UPWARDS THEN NO",
   "RTH WESTpRIGHTWARDS THEN CURVING SOUTH WEST,1F900,aCIRCLED CROSS FORMEE WITH FOUR DOTS!TWO DOT",
   "SuaLEFT HALF CIRCLE WITH FOUR DOTSwTHREE DOTSxWO DOTSwDOTqaDOWNWARD FACING HOOKqNOTCHED HOOKqH",
   "OOK WITH DOTqNOTCHED HOOK WITH DOTaPINCHED FINGERSaWHITE HEARTaBROWN HEARTaPINCHING HANDaZIPPE",
   "R-MOUTH FACEaMONEY-MOUTH FACEaFACE WITH THERMOMETERaNERD FACEaTHINKING FACEaFACE WITH HEAD-BAN",
   "DAGEaROBOT FACEaHUGGING FACEaSIGN OF THE HORNSaCALL ME HANDaRAISED BACK OF HANDaLEFT-FACING FI",
   "STaRIGHT-FACING FISTaHANDSHAKEe WITH INDEX AND MIDDLE FINGERS CROSSEDaI LOVE YOU HAND SIGNaFAC",
   "E WITH COWBOY HATaCLOWN FACEaNAUSEATED FACEaROLLING ON THE FLOOR LAUGHINGaDROOLING FACEaLYING ",
   "FACEaFACE PALMaSNEEZING FACEaFACE WITH ONE EYEBROW RAISEDaGRINNING FACE WITH STAR EYEStONE LAR",
   "GE AND ONE SMALL EYEaFACE WITH FINGER COVERING CLOSED LIPSaSERIOUS FACE WITH SYMBOLS COVERING ",
   "MOUTHbMILING FACE WITH SMILING EYES AND HAND COVERING MOUTHaFACE WITH OPEN MOUTH VOMITINGaSHOC",
   "KED FACE WITH EXPLODING HEADaPREGNANT WOMANaBREAST-FEEDINGaPALMS UP TOGETHERaSELFIEaPRINCEaMAN",
   " IN TUXEDObOTHER CHRISTMASaSHRUGaPERSON DOING CARTWHEELaJUGGLINGaFENCERaMODERN PENTATHLONaWRES",
   "TLERSbATER POLOaHANDBALLaDIVING MASKaWILTED FLOWERaDRUM WITH DRUMSTICKSaCLINKING GLASSESaTUMBL",
   "ER GLASSaSPOONaGOAL NETaRIFLEaFIRST PLACE MEDALaSECOND PLACE MEDALaTHIRD PLACE MEDALaBOXING GL",
   "OVEaMARTIAL ARTS UNIFORMaCURLING STONEaLACROSSE STICK AND BALLaSOFTBALLaFLYING DISCaCROISSANTa",
   "AVOCADOaCUCUMBERaBACONaPOTATOaCARROTaBAGUETTE BREADaGREEN SALADaSHALLOW PAN OF FOODbTUFFED FLA",
   "TBREADaEGGaGLASS OF MILKaPEANUTSaKIWIFRUITaPANCAKESaDUMPLINGaFORTUNE COOKIEaTAKEOUT BOXaCHOPST",
   "ICKSaBOWL WITH SPOONaCUP WITH STRAWbOCONUTaBROCCOLIaPIEbRETZELaCUT OF MEATaSANDWICHaCANNED FOO",
   "DaLEAFY GREENaMANGObOON CAKEaBAGELaSMILING FACE WITH SMILING EYES AND THREE HEARTSaYAWNING FAC",
   "EaSMILING FACE WITH TEARaFACE WITH PARTY HORN AND PARTY HATkUNEVEN EYES AND WAVY MOUTHaOVERHEA",
   "TED FACEaFREEZING FACEaNINJAaDISGUISED FACEaFACE HOLDING BACK TEARSfWITH PLEADING EYESaSARIaLA",
   "B COATaGOGGLESaHIKING BOOTaFLAT SHOEaCRABaLION FACEaSCORPIONaTURKEYaUNICORN FACEaEAGLEaDUCKaBA",
   "TaSHARKaOWLaFOX FACEaBUTTERFLYaDEERaGORILLAaLIZARDaRHINOCEROSaSHRIMPbQUIDaGIRAFFE FACEaZEBRA F",
   "ACEaHEDGEHOGaSAUROPODaT-REXaCRICKETaKANGAROOaLLAMAaPEACOCKaHIPPOPOTAMUSaPARROTaRACCOONaLOBSTER",
   "aMOSQUITObICROBEaBADGERaSWANaMAMMOTHaDODOaSLOTHaOTTERbRANGUTANaSKUNKaFLAMINGOaOYSTERaBEAVERbIS",
   "ONaSEALaGUIDE DOGaPROBING CANEaEMOJI COMPONENT RED HAIRqCURLY HAIRqBALDqWHITE HAIRaBONEaLEGaFO",
   "OTaTOOTHaSUPERHEROfVILLAINbAFETY VESTaEAR WITH HEARING AIDaMOTORIZED WHEELCHAIRbANUAL WHEELCHA",
   "IRbECHANICAL ARMlLEGaCHEESE WEDGEbUPCAKEaSALT SHAKERaBEVERAGE BOXaGARLICaONIONaFALAFELaWAFFLEa",
   "BUTTERaMATE DRINKaICE CUBEaBUBBLE TEAaTROLLaSTANDING PERSONaKNEELING PERSONaDEAF PERSONaFACE W",
   "ITH MONOCLEaADULTaCHILDaOLDER ADULTaBEARDED PERSONaPERSON WITH HEADSCARFhIN STEAMY ROOMhCLIMBI",
   "NGhIN LOTUS POSITIONaMAGEaFAIRYaVAMPIREaMERPERSONaELFaGENIEaZOMBIEaBRAINaORANGE HEARTaBILLED C",
   "APaSCARFaGLOVESaCOATaSOCKSaRED GIFT ENVELOPEaFIRECRACKERaJIGSAW PUZZLE PIECEaTEST TUBEaPETRI D",
   "ISHaDNA DOUBLE HELIXaCOMPASSaABACUSaFIRE EXTINGUISHERaTOOLBOXaBRICKaMAGNETaLUGGAGEbOTION BOTTL",
   "EaSPOOL OF THREADaBALL OF YARNaSAFETY PINaTEDDY BEARaBROOMbASKETaROLL OF PAPERaBAR OF SOAPaSPO",
   "NGEaRECEIPTaNAZAR AMULETbEUTRAL CHESS KINGoQUEENoROOKoBISHOPoKNIGHToPAWNaWHITE CHESS KNIGHT RO",
   "TATED FORTY-FIVE DEGREESaBLACK CHESS KNIGHT ROTATED FORTY-FIVE DEGREESaNEUTRAL CHESS KNIGHT RO",
   "TATED FORTY-FIVE DEGREESaWHITE CHESS KING ROTATED NINETY DEGREESmQUEEN ROTATED NINETY DEGREESm",
   "ROOK ROTATED NINETY DEGREESmBISHOP ROTATED NINETY DEGREESmKNIGHT ROTATED NINETY DEGREESmPAWN R",
   "OTATED NINETY DEGREESaBLACK CHESS KING ROTATED NINETY DEGREESmQUEEN ROTATED NINETY DEGREESmROO",
   "K ROTATED NINETY DEGREESmBISHOP ROTATED NINETY DEGREESmKNIGHT ROTATED NINETY DEGREESmPAWN ROTA",
   "TED NINETY DEGREESaNEUTRAL CHESS KING ROTATED NINETY DEGREESoQUEEN ROTATED NINETY DEGREESoROOK",
   " ROTATED NINETY DEGREESoBISHOP ROTATED NINETY DEGREESoKNIGHT ROTATED NINETY DEGREESoPAWN ROTAT",
   "ED NINETY DEGREESaWHITE CHESS KNIGHT ROTATED ONE HUNDRED THIRTY-FIVE DEGREESaBLACK CHESS KNIGH",
   "T ROTATED ONE HUNDRED THIRTY-FIVE DEGREESaNEUTRAL CHESS KNIGHT ROTATED ONE HUNDRED THIRTY-FIVE",
   " DEGREESaWHITE CHESS TURNED KINGtQUEENtROOKtBISHOPtKNIGHTtPAWNaBLACK CHESS TURNED KINGtQUEENtR",
   "OOKtBISHOPtKNIGHTtPAWNaNEUTRAL CHESS TURNED KINGvQUEENvROOKvBISHOPvKNIGHTvPAWNaWHITE CHESS KNI",
   "GHT ROTATED TWO HUNDRED TWENTY-FIVE DEGREESaBLACK CHESS KNIGHT ROTATED TWO HUNDRED TWENTY-FIVE",
   " DEGREESaNEUTRAL CHESS KNIGHT ROTATED TWO HUNDRED TWENTY-FIVE DEGREESaWHITE CHESS KING ROTATED",
   " TWO HUNDRED SEVENTY DEGREESmQUEEN ROTATED TWO HUNDRED SEVENTY DEGREESmROOK ROTATED TWO HUNDRE",
   "D SEVENTY DEGREESmBISHOP ROTATED TWO HUNDRED SEVENTY DEGREESmKNIGHT ROTATED TWO HUNDRED SEVENT",
   "Y DEGREESmPAWN ROTATED TWO HUNDRED SEVENTY DEGREESaBLACK CHESS KING ROTATED TWO HUNDRED SEVENT",
   "Y DEGREESmQUEEN ROTATED TWO HUNDRED SEVENTY DEGREESmROOK ROTATED TWO HUNDRED SEVENTY DEGREESmB",
   "ISHOP ROTATED TWO HUNDRED SEVENTY DEGREESmKNIGHT ROTATED TWO HUNDRED SEVENTY DEGREESmPAWN ROTA",
   "TED TWO HUNDRED SEVENTY DEGREESaNEUTRAL CHESS KING ROTATED TWO HUNDRED SEVENTY DEGREESoQUEEN R",
   "OTATED TWO HUNDRED SEVENTY DEGREESoROOK ROTATED TWO HUNDRED SEVENTY DEGREESoBISHOP ROTATED TWO",
   " HUNDRED SEVENTY DEGREESoKNIGHT ROTATED TWO HUNDRED SEVENTY DEGREESoPAWN ROTATED TWO HUNDRED S",
   "EVENTY DEGREESaWHITE CHESS KNIGHT ROTATED THREE HUNDRED FIFTEEN DEGREESaBLACK CHESS KNIGHT ROT",
   "ATED THREE HUNDRED FIFTEEN DEGREESaNEUTRAL CHESS KNIGHT ROTATED THREE HUNDRED FIFTEEN DEGREESa",
   "WHITE CHESS EQUIHOPPERaBLACK CHESS EQUIHOPPERaNEUTRAL CHESS EQUIHOPPERaWHITE CHESS EQUIHOPPER ",
   "ROTATED NINETY DEGREESaBLACK CHESS EQUIHOPPER ROTATED NINETY DEGREESaNEUTRAL CHESS EQUIHOPPER ",
   "ROTATED NINETY DEGREESaWHITE CHESS KNIGHT-QUEENtROOKtBISHOPaBLACK CHESS KNIGHT-QUEENtROOKtBISH",
   "OP,1FA60,aXIANGQI RED GENERALmMANDARINmELEPHANTmHORSEmCHARIOTnANNONmSOLDIERiBLACK GENERALoMAND",
   "ARINoELEPHANToHORSEoCHARIOTpANNONoSOLDIER,1FA70,aBALLET SHOESaONE-PIECE SWIMSUITaBRIEFSaSHORTS",
   "aTHONG SANDAL,1FA78,aDROP OF BLOODaADHESIVE BANDAGEaSTETHOSCOPEaX-RAYaCRUTCH,1FA80,aYO-YOaKITE",
   "aPARACHUTEaBOOMERANGaMAGIC WANDaPINATAaNESTING DOLLS,1FA90,aRINGED PLANETaCHAIRaRAZORaAXEaDIYA",
   " LAMPaBANJOaMILITARY HELMETaACCORDIONaLONG DRUMaCOINbARPENTRY SAWaSCREWDRIVERaLADDERaHOOKaMIRR",
   "ORaWINDOWaPLUNGERaSEWING NEEDLEaKNOTaBUCKETaMOUSE TRAPaTOOTHBRUSHaHEADSTONEaPLACARDaROCKaMIRRO",
   "R BALLaIDENTIFICATION CARDaLOW BATTERYaHAMSA,1FAB0,aFLYaWORMaBEETLEaCOCKROACHaPOTTED PLANTaWOO",
   "DaFEATHERaLOTUSaCORALaEMPTY NESTaNEST WITH EGGS,1FAC0,aANATOMICAL HEARTaLUNGSaPEOPLE HUGGINGbR",
   "EGNANT MANjPERSONbERSON WITH CROWN,1FAD0,aBLUEBERRIESbELL PEPPERaOLIVEaFLATBREADaTAMALEaFONDUE",
   "aTEAPOTaPOURING LIQUIDaBEANSaJAR,1FAE0,aMELTING FACEaSALUTING FACEaFACE WITH OPEN EYES AND HAN",
   "D OVER MOUTHkPEEKING EYEkDIAGONAL MOUTHaDOTTED LINE FACEaBITING LIPbUBBLES,1FAF0,aHAND WITH IN",
   "DEX FINGER AND THUMB CROSSEDaRIGHTWARDS HANDaLEFTWARDS HANDaPALM DOWN HANDfUP HANDaINDEX POINT",
   "ING AT THE VIEWERaHEART HANDS,1FB00,aBLOCK SEXTANT-1o2o12o3o13o23o123o4o14o24o124o34o134o234o1",
   "234o5o15o25o125o35o235o1235o45o145o245o1245o345o1345o2345o12345o6o16o26o126o36o136o236o1236o46",
   "o146p246o346o1346o2346o12346o56o156o256o1256o356o1356o2356o12356o456o1456o2456o12456o3456o1345",
   "6o23456aLOWER LEFT BLOCK DIAGONAL LOWER MIDDLE LEFT TO LOWER CENTRE~WER RIGHT!UPPER MIDDLE LEF",
   "T TO LOWER CENTRE~WER RIGHT)LEFT TO LOWER CENTREgRIGHT BLOCK DIAGONAL UPPER MIDDLE LEFT TO UPP",
   "ER CENTRE~PPER RIGHT#LOWER MIDDLE LEFT TO UPPER CENTRE~PPER RIGHT*LEFT TO UPPER CENTRE*MIDDLE ",
   "LEFT TO UPPER MIDDLE RIGHT*CENTRE TO LOWER MIDDLE RIGHT*LEFT TO LOWER MIDDLE RIGHT*CENTRE TO U",
   "PPER MIDDLE RIGHT*LEFT TO UPPER MIDDLE RIGHT*CENTRE TO UPPER RIGHTgLEFT BLOCK DIAGONAL UPPER C",
   "ENTRE TO UPPER MIDDLE RIGHT)LEFT TO UPPER MIDDLE RIGHT)CENTRE TO LOWER MIDDLE RIGHT)LEFT TO LO",
   "WER MIDDLE RIGHT)CENTRE TO LOWER RIGHT)MIDDLE LEFT TO LOWER MIDDLE RIGHTaUPPER RIGHT BLOCK DIA",
   "GONAL LOWER MIDDLE LEFT TO LOWER CENTRE~OWER RIGHT#UPPER MIDDLE LEFT TO LOWER CENTRE~OWER RIGH",
   "T*LEFT TO LOWER CENTREgLEFT BLOCK DIAGONAL UPPER MIDDLE LEFT TO UPPER CENTRE~PER RIGHT!LOWER M",
   "IDDLE LEFT TO UPPER CENTRE~PER RIGHT)LEFT TO UPPER CENTRE)MIDDLE LEFT TO UPPER MIDDLE RIGHT)CE",
   "NTRE TO LOWER MIDDLE RIGHT)LEFT TO LOWER MIDDLE RIGHT)CENTRE TO UPPER MIDDLE RIGHT)LEFT TO UPP",
   "ER MIDDLE RIGHT)CENTRE TO UPPER RIGHTgRIGHT BLOCK DIAGONAL UPPER CENTRE TO UPPER MIDDLE RIGHT*",
   "LEFT TO UPPER MIDDLE RIGHT*CENTRE TO LOWER MIDDLE RIGHT*LEFT TO LOWER MIDDLE RIGHT*CENTRE TO L",
   "OWER RIGHT*MIDDLE LEFT TO LOWER MIDDLE RIGHTgAND RIGHT AND LOWER TRIANGULAR THREE QUARTERS BLO",
   "CKaLEFT AND LOWER AND RIGHT TRIANGULAR THREE QUARTERS BLOCKaUPPER AND LEFT AND LOWER TRIANGULA",
   "R THREE QUARTERS BLOCKaLEFT AND UPPER AND RIGHT TRIANGULAR THREE QUARTERS BLOCKfTRIANGULAR ONE",
   " QUARTER BLOCKaUPPER TRIANGULAR ONE QUARTER BLOCKaRIGHT TRIANGULAR ONE QUARTER BLOCKaLOWER TRI",
   "ANGULAR ONE QUARTER BLOCKaVERTICAL ONE EIGHTH BLOCK-2!3!4!5!6!7aHORIZONTAL ONE EIGHTH BLOCK-2$",
   "3$4$5$6$7aLEFT AND LOWER ONE EIGHTH BLOCKjUPPER ONE EIGHTH BLOCKaRIGHT AND UPPER ONE EIGHTH BL",
   "OCKkLOWER ONE EIGHTH BLOCKaUPPER AND LOWER ONE EIGHTH BLOCKaHORIZONTAL ONE EIGHTH BLOCK-1358aU",
   "PPER ONE QUARTER BLOCKgTHREE EIGHTHS BLOCKgFIVE EIGHTHS BLOCKgTHREE QUARTERS BLOCKgSEVEN EIGHT",
   "HS BLOCKaRIGHT ONE QUARTER BLOCKgTHREE EIGHTHS BLOCKgFIVE EIGHTHS BLOCKgTHREE QUARTERS BLOCKgS",
   "EVEN EIGHTHS BLOCKaLEFT HALF MEDIUM SHADEaRIGHT HALF MEDIUM SHADEaUPPER HALF MEDIUM SHADEaLOWE",
   "R HALF MEDIUM SHADEaINVERSE MEDIUM SHADEaUPPER HALF BLOCK AND LOWER HALF INVERSE MEDIUM SHADEl",
   "INVERSE MEDIUM SHADE AND LOWER HALF BLOCK,1FB94,aLEFT HALF INVERSE MEDIUM SHADE AND RIGHT HALF",
   " BLOCKaCHECKER BOARD FILLaINVERSE CHECKER BOARD FILLaHEAVY HORIZONTAL FILLaUPPER LEFT TO LOWER",
   " RIGHT FILLgRIGHT TO LOWER LEFT FILLgAND LOWER TRIANGULAR HALF BLOCKaLEFT AND RIGHT TRIANGULAR",
   " HALF BLOCKaUPPER LEFT TRIANGULAR MEDIUM SHADEgRIGHT TRIANGULAR MEDIUM SHADEaLOWER RIGHT TRIAN",
   "GULAR MEDIUM SHADEgLEFT TRIANGULAR MEDIUM SHADEaBOX DRAWINGS LIGHT DIAGONAL UPPER CENTRE TO MI",
   "DDLE LEFT~E RIGHT$MIDDLE LEFT TO LOWER CENTRE.RIGHT TO LOWER CENTRE$UPPER CENTRE TO MIDDLE LEF",
   "T TO LOWER CENTRE~E RIGHT TO LOWER CENTRE$MIDDLE LEFT TO LOWER CENTRE TO MIDDLE RIGHT@UPPER CE",
   "NTRE TO MIDDLE RIGHT$UPPER CENTRE TO MIDDLE LEFT AND MIDDLE RIGHT TO LOWER CENTRE~E RIGHT AND ",
   "MIDDLE LEFT TO LOWER CENTRE~E RIGHT TO LOWER CENTRE TO MIDDLE LEFT~E LEFT TO LOWER CENTRE TO M",
   "IDDLE RIGHT$MIDDLE LEFT TO UPPER CENTRE TO MIDDLE RIGHT TO LOWER CENTRE.RIGHT TO UPPER CENTRE ",
   "TO MIDDLE LEFT TO LOWER CENTRE$DIAMONDtHORIZONTAL WITH VERTICAL STROKEaARROWHEAD-SHAPED POINTE",
   "RaINVERSE CHECK MARKaLEFT HALF RUNNING MANaRIGHT HALF RUNNING MANaINVERSE DOWNWARDS ARROW WITH",
   " TIP LEFTWARDSaLEFTWARDS ARROW AND UPPER AND LOWER ONE EIGHTH BLOCKaRIGHTWARDS ARROW AND UPPER",
   " AND LOWER ONE EIGHTH BLOCKaDOWNWARDS ARROW AND RIGHT ONE EIGHTH BLOCKaUPWARDS ARROW AND RIGHT",
   " ONE EIGHTH BLOCKaLEFT HALF FOLDERaRIGHT HALF FOLDERaVOIDED GREEK CROSSaRIGHT OPEN SQUARED DOT",
   "aNEGATIVE DIAGONAL CROSSsMIDDLE RIGHT TO LOWER CENTREsDIAMONDaWHITE HEAVY SALTIRE WITH ROUNDED",
   " CORNERSaLEFT THIRD WHITE RIGHT POINTING INDEXaMIDDLE THIRD WHITE RIGHT POINTING INDEXaRIGHT T",
   "HIRD WHITE RIGHT POINTING INDEXaNEGATIVE SQUARED QUESTION MARKaSTICK FIGUREm WITH ARMS RAISEDn",
   "LEANING LEFTvRIGHTnWITH DRESSaWHITE UP-POINTING CHEVRON,1FBF0,aSEGMENTED DIGIT ZEROqONEqTWOrHR",
   "EEqFOURrIVEqSIXrEVENqEIGHTqNINE,E0001,aLANGUAGE TAG,E0020,aTAG SPACEeEXCLAMATION MARKeQUOTATIO",
   "N MARKeNUMBER SIGNeDOLLAR SIGNePERCENT SIGNeAMPERSANDfPOSTROPHEeLEFT PARENTHESISeRIGHT PARENTH",
   "ESISeASTERISKePLUS SIGNeCOMMAeHYPHEN-MINUSeFULL STOPeSOLIDUSeDIGIT ZEROkONEkTWOlHREEkFOURlIVEk",
   "SIXlEVENkEIGHTkNINEeCOLONeSEMICOLONeLESS-THAN SIGNeEQUALS SIGNeGREATER-THAN SIGNeQUESTION MARK",
   "eCOMMERCIAL ATeLATIN CAPITAL LETTER AzBzCzDzEzFzGzHzIzJzKzLzMzNzOzPzQzRzSzTzUzVzWzXzYzZfEFT SQ",
   "UARE BRACKETeREVERSE SOLIDUSfIGHT SQUARE BRACKETeCIRCUMFLEX ACCENTeLOW LINEeGRAVE ACCENTeLATIN",
   " SMALL LETTER AxBxCxDxExFxGxHxIxJxKxLxMxNxOxPxQxRxSxTxUxVxWxXxYxZfEFT CURLY BRACKETeVERTICAL L",
   "INEeRIGHT CURLY BRACKETeTILDEaCANCEL TAG,E0100,aVARIATION SELECTOR-17u8u9t20u1u2u3u4u5u6u7u8u9",
   "t30u1u2u3u4u5u6u7u8u9t40u1u2u3u4u5u6u7u8u9t50u1u2u3u4u5u6u7u8u9t60u1u2u3u4u5u6u7u8u9t70u1u2u3u",
   "4u5u6u7u8u9t80u1u2u3u4u5u6u7u8u9t90u1u2u3u4u5u6u7u8u9t100v1v2v3v4v5v6v7v8v9u10v1v2v3v4v5v6v7v8",
   "v9u20v1v2v3v4v5v6v7v8v9u30v1v2v3v4v5v6v7v8v9u40v1v2v3v4v5v6v7v8v9u50v1v2v3v4v5v6v7v8v9u60v1v2v",
   "3v4v5v6v7v8v9u70v1v2v3v4v5v6v7v8v9u80v1v2v3v4v5v6v7v8v9u90v1v2v3v4v5v6v7v8v9t200v1v2v3v4v5v6v7",
   "v8v9u10v1v2v3v4v5v6v7v8v9u20v1v2v3v4v5v6v7v8v9u30v1v2v3v4v5v6v7v8v9u40v1v2v3v4v5v6v7v8v9u50v1v",
   "2v3v4v5v6"]

end LiteralEnum.Text.CharacterName
