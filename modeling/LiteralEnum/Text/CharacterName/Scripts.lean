/-! Names of the characters of the historic scripts of the first supplementary plane, in
the compressed form that `CharacterName` reads.
-/

namespace LiteralEnum.Text.CharacterName

def scriptsNames : List String :=
  [",10000,aLINEAR B SYLLABLE B008 Au38 Eu28 Iu61 Ou10 Uu01 DAu45 DEu07 DIu14 DOu51 DUv7 JAu46 JE,",
   "1000D,aLINEAR B SYLLABLE B036 JOu65 JUu77 KAu44 KEu67 KIu70 KOu81 KUv0 MAu13 MEu73 MIu15 MOu23",
   " MUu06 NAu24 NEu30 NIu52 NOv5 NUu03 PAu72 PEu39 PIu11 POu50 PUu16 QAu78 QEu21 QIu32 QO,10028,a",
   "LINEAR B SYLLABLE B060 RAu27 REu53 RIu02 ROu26 RUu31 SAu09 SEu41 SIu12 SOu58 SUv9 TAu04 TEu37 ",
   "TIu05 TOu69 TUu54 WAu75 WEu40 WIv2 WO,1003C,aLINEAR B SYLLABLE B017 ZAu74 ZE,1003F,aLINEAR B S",
   "YLLABLE B020 ZOv5 A2u43 A3u85 AUu71 DWEu90 DWOu48 NWAu29 PU2u62 PTEu76 RA2u33 RA3u68 RO2v6 TA2",
   "u87 TWEu91 TWO,10050,aLINEAR B SYMBOL B018t9s22s34s47t9s56s63t4s79s82t3t6t9,10080,aLINEAR B ID",
   "EOGRAM B100 MANv2 WOMANv4 DEERv5 EQUIDwF MAREwM STALLIONv6F EWEwM RAMv7F SHE-GOATwM HE-GOATv8F",
   " SOWwM BOARv9F COWwM BULLu20 WHEATv1 BARLEYv2 OLIVEv3 SPICEv5 CYPERUSjMONOGRAM B127 KAPOv8 KAN",
   "AKOjIDEOGRAM B130 OILv1 WINEv2jMONOGRAM B133 AREPAv5 MERIjIDEOGRAM B140 BRONZEv1 GOLDv2v5 WOOL",
   "v6u50v1 HORNv2v3v4jMONOGRAM B156 TURO2jIDEOGRAM B157v8v9 CLOTHu60v1v2 GARMENTv3 ARMOURv4v5v6v7",
   "v8v9u70v1v2v3 MONTHv4v6 TREEv7v8v9u80v1v2v3v4v5v9u90v1 HELMETt220 FOOTSTOOLv5 BATHTUBu30 SPEAR",
   "v1 ARROWv2v3 SWORDv4v6u40 WHEELED CHARIOTv1 CHARIOTv2 CHARIOT FRAMEv3 WHEELv5v6jMONOGRAM B247 ",
   "DIPTEjIDEOGRAM B248v9u51v2v3v4 DARTv5v6v7v8v9sVESSEL B155!200$1$2$3$4$5$6$7$8$9#10$1$2$3$4$5$6",
   "$7$8$9#21$2$6$7$8$9#50!305,10100,aAEGEAN WORD SEPARATOR LINEwDOThCHECK MARK,10107,aAEGEAN NUMB",
   "ER ONEoTWOpHREEoFOURpIVEoSIXpEVENoEIGHToNINEoTENpWENTYpHIRTYoFORTYpIFTYoSIXTYpEVENTYoEIGHTYoNI",
   "NETYoONE HUNDREDoTWO HUNDREDpHREE HUNDREDoFOUR HUNDREDpIVE HUNDREDoSIX HUNDREDpEVEN HUNDREDoEI",
   "GHT HUNDREDoNINE HUNDREDoONE THOUSANDoTWO THOUSANDpHREE THOUSANDoFOUR THOUSANDpIVE THOUSANDoSI",
   "X THOUSANDpEVEN THOUSANDoEIGHT THOUSANDoNINE THOUSANDoTEN THOUSANDpWENTY THOUSANDpHIRTY THOUSA",
   "NDoFORTY THOUSANDpIFTY THOUSANDoSIXTY THOUSANDpEVENTY THOUSANDoEIGHTY THOUSANDoNINETY THOUSAND",
   ",10137,aAEGEAN WEIGHT BASE UNIToFIRST SUBUNIToSECOND SUBUNIToTHIRD SUBUNIToFOURTH SUBUNIThDRY ",
   "MEASURE FIRST SUBUNIThLIQUID MEASURE FIRST SUBUNIThMEASURE SECOND SUBUNITpTHIRD SUBUNITaGREEK ",
   "ACROPHONIC ATTIC ONE QUARTER#HALF#DRACHMAxFIVEzFTYzVE HUNDRED$THOUSANDzFTY THOUSANDzVE TALENTS",
   "xTEN TALENTSxFIFTY TALENTSxONE HUNDRED TALENTSxFIVE HUNDRED TALENTSxONE THOUSAND TALENTSxFIVE ",
   "THOUSAND TALENTS$STATERSxTEN STATERSxFIFTY STATERSxONE HUNDRED STATERSxFIVE HUNDRED STATERSxON",
   "E THOUSAND STATERSxTEN THOUSAND STATERSxFIFTY THOUSAND STATERSxTEN MNASrHERAEUM ONE PLETHRONrT",
   "HESPIAN ONErHERMIONIAN ONErEPIDAUREAN TWOrTHESPIAN TWOrCYRENAIC TWO DRACHMASrEPIDAUREAN TWO DR",
   "ACHMASrTROEZENIAN FIVE$TEN( ALTERNATE FORMrHERMIONIAN TENrMESSENIAN TENrTHESPIAN TEN#HIRTYsROE",
   "ZENIAN FIFTY* ALTERNATE FORMrHERMIONIAN FIFTYrTHESPIAN FIFTY!ONE HUNDRED!THREE HUNDREDrEPIDAUR",
   "EAN FIVE HUNDREDrTROEZENIAN FIVE HUNDREDsHESPIAN FIVE HUNDREDrCARYSTIAN FIVE HUNDREDrNAXIAN FI",
   "VE HUNDREDrTHESPIAN ONE THOUSAND!FIVE THOUSANDrDELPHIC FIVE MNASrSTRATIAN FIFTY MNASgONE HALF ",
   "SIGNt ALTERNATE FORMgTWO THIRDS SIGNhHREE QUARTERS SIGNgYEAR SIGNgTALENT SIGNgDRACHMA SIGNgOBO",
   "L SIGNgTWO OBOLS SIGNhHREE OBOLS SIGNgFOUR OBOLS SIGNhIVE OBOLS SIGNgMETRETES SIGNgKYATHOS BAS",
   "E SIGNgLITRA SIGNgOUNKIA SIGNgXESTES SIGNgARTABE SIGNiOURA SIGNgGRAMMA SIGNgTRYBLION BASE SIGN",
   "gZERO SIGNgONE QUARTER SIGNgSINUSOID SIGNgINDICTION SIGNaNOMISMA SIGN,10190,aROMAN SEXTANS SIG",
   "NgUNCIA SIGNgSEMUNCIA SIGNiXTULA SIGNgDIMIDIA SEXTULA SIGNgSILIQUA SIGNgDENARIUS SIGNgQUINARIU",
   "S SIGNgSESTERTIUS SIGNgDUPONDIUS SIGNgAS SIGNgCENTURIAL SIGNaASCIA SYMBOL,101A0,aGREEK SYMBOL ",
   "TAU RHO,101D0,aPHAISTOS DISC SIGN PEDESTRIANuLUMED HEADtTATTOOED HEADtCAPTIVEuHILDtWOMANtHELME",
   "TtGAUNTLETtTIARAtARROWtBOWtSHIELDtCLUBtMANACLESvTTOCKtSAWtLIDtBOOMERANGtCARPENTRY PLANEtDOLIUM",
   "tCOMBtSLINGtCOLUMNtBEEHIVEtSHIPtHORNuIDEtBULLS LEGtCATtRAMtEAGLEtDOVEtTUNNYtBEEtPLANE TREEtVIN",
   "EtPAPYRUStROSETTEtLILYtOX BACKtFLUTEtGRATERtSTRAINERuMALL AXEtWAVY BANDtCOMBINING OBLIQUE STRO",
   "KE,10280,aLYCIAN LETTER AoEoBpHoGoDoIoWoZoTHoJoKoQoLoMoNoMMoNNoUoPoKKoRoSoTpToANoENoHoX,102A0,",
   "aCARIAN LETTER AoP2oDoLoUUUoRoLDoA2oQoBoMoOoD2oToSHq2poC-18oUoNNoXoNoTT2oPoSSoIoEoUUUUoKp2oNDo",
   "UUoGp2oSTq2oNGoIIoC-39oTToUUU2oRRoMBq2q3q4oLD2oE2oUUU3,102E0,aCOPTIC EPACT THOUSANDS MARKnDIGI",
   "T ONEtTWOuHREEtFOURuIVEtSIXuEVENtEIGHTtNINEnNUMBER TENvWENTYvHIRTYuFORTYvIFTYuSIXTYvEVENTYuEIG",
   "HTYuNINETYuONE HUNDREDuTWO HUNDREDvHREE HUNDREDuFOUR HUNDREDvIVE HUNDREDuSIX HUNDREDvEVEN HUND",
   "REDuEIGHT HUNDREDuNINE HUNDRED,10300,aOLD ITALIC LETTER AsBEsKEsDEsEsVEsZEsHEsTHEsIsKAsELtMtNt",
   "SHsOsPEsSHEsKUsERtSsTEsUsEKSsPHEsKHEsEFtRSsCHEsIIsUUsESSlNUMERAL ONEtFIVEtTENtFIFTY,1032D,aOLD",
   " ITALIC LETTER YEsNORTHERN TSEsSOUTHERN TSEaGOTHIC LETTER AHSAoBAIRKANoGIBAoDAGSoAIHVUSoQAIRTH",
   "RAoIUJAoHAGLoTHIUTHoEISoKUSMAoLAGUSoMANNAoNAUTHSoJERoURUSoPAIRTHRAoNINETYoRAIDAoSAUILoTEIWSoWI",
   "NJAoFAIHUoIGGWSoHWAIRoOTHALoNINE HUNDRED,10350,aOLD PERMIC LETTER ANsBURsGAIsDOIsEsZHOIsDZHOIs",
   "ZATAsDZITAsIsKOKEsLEIsMENOEsNENOEsVOOIsPEEIsREIsSIIsTAIsUsCHERYsSHOOIuCHOOIsYRYtERUsOtOsEFsHAs",
   "TSIUsVERsYERvItATsIEsYUtAsIAaCOMBINING OLD PERMIC LETTER AN$DOI$ZATA$NENOE$SII,10380,aUGARITIC",
   " LETTER ALPAqBETAqGAMLAqKHAqDELTAqHOqWOqZETAqHOTAqTETqYODqKAFqSHINqLAMDAqMEMqDHALqNUNqZUqSAMKA",
   "qAINqPUqSADEqQOPAqRASHAqTHANNAqGHAINqTOqIqUqSSU,1039F,aUGARITIC WORD DIVIDERaOLD PERSIAN SIGN ",
   "ArIrUrKAsUrGAsUrXArCArJAsIrTAsUrDAsIsUrTHArPArBArFArNAsUrMAsIsUrYArVAsIrRAsUrLArSArZArSHAsSArH",
   "A,103C8,aOLD PERSIAN SIGN AURAMAZDAA#-2#HArXSHAAYATHIYArDAHYAAUSH!-2rBAGAsUUMISHmWORD DIVIDERm",
   "NUMBER ONEtTWOuENuWENTYtHUNDRED,10400,aDESERET CAPITAL LETTER LONG I$E$A%H$O%OxSHORT I%E%A&H%O",
   "&OxAYxOWxWUxYEExHxPEExBEExTEExDEExCHEExJEExKAYxGAYxEFxVEExETHxTHEExESxZEExESHxZHEExERyLyMyNzGx",
   "OIxEWiSMALL LETTER LONG I!E!A#H!O#OvSHORT I#E#A$H#O$OvAYvOWvWUvYEEvHvPEEvBEEvTEEvDEEvCHEEvJEEv",
   "KAYvGAYvEFvVEEvETHvTHEEvESvZEEvESHvZHEEvERwLwMwNxGvOIvEWaSHAVIAN LETTER PEEPpTOTpKICKpFEEpTHIG",
   "HpSOqUREpCHURCHpYEApHUNGpBIBpDEADpGAGpVOWpTHEYpZOOpMEASUREpJUDGEpWOEpHA-HApLOLLpMIMEpIFpEGGpAS",
   "HqDOpONpWOOLpOUTpAHpROARpNUNpEATpAGEpICEpUPpOAKqOZEqILpAWEqREpORpAIRpERRpARRAYpEARpIANpYEWaOSM",
   "ANYA LETTER ALEFpBApTApJApXApKHApDEELpRApSAqHIINpDHApCAYNpGApFApQAAFpKAAFpLAANpMIINpNUUNpWAWpH",
   "ApYApApEpIpOpUpAApEEpOO,104A0,aOSMANYA DIGIT ZEROoONEoTWOpHREEoFOURpIVEoSIXpEVENoEIGHToNINE,10",
   "4B0,aOSAGE CAPITAL LETTER AwIxNwHvBRAvCHAvEHCHAwwINvHAwYAvIvKAvEHKAvKYAvLAvMAvNAvOwINvPAvEHPAv",
   "SAwHAvTAvEHTAvTSAvEHTSAvTSHAvDHAvUvWAvKHAvGHAvZAwHA,104D8,aOSAGE SMALL LETTER AuIvNuHtBRAtCHAt",
   "EHCHAuuINtHAuYAtItKAtEHKAtKYAtLAtMAtNAtOuINtPAtEHPAtSAuHAtTAtEHTAtTSAtEHTSAtTSHAtDHAtUtWAtKHAt",
   "GHAtZAuHA,10500,aELBASAN LETTER ApBEpCEqHEpDEpNDEpDHEpEIqpFEpGEqJEpHEpIpJEpKEpLEqLEpMEpNEqAqJE",
   "pOpPEpQEpREqREpSEqHEpTEqHEpUpVEpXEpYpZEqHEpGHErAMMApKHE,10530,aCAUCASIAN ALBANIAN LETTER ALT!B",
   "ET!GIM!DAT!EB!ZARL!EYN!ZHIL!TAS!CHA!YOWD!ZHA!IRB!SHA!LAN!INYA!XEYN!DYAN!CAR!JHOX!KAR!LYIT!HEYT",
   "!QAY!AOR!CHOY$I#YAY!MAQ!QAR!NOWC!DZYAY!SHAK!JAYN!ON!TYAY!FAM!DZAY!CHAT!PEN!GHEYS!RAT!SEYK!VEYZ",
   "!TIWR!SHOY!IWN!CYAW#AYN!YAYD!PIWR!KIW,1056F,aCAUCASIAN ALBANIAN CITATION MARKaVITHKUQI CAPITAL",
   " LETTER AyBBEzEyCEzHEyDEzHEyEIzyFEyGA,1057C,aVITHKUQI CAPITAL LETTER HAzHAyIzJEyJEyKAyLAzLAyME",
   "yNEzJEyOyPEyQAyRE,1058C,aVITHKUQI CAPITAL LETTER SEzHEyTEzHEyUyVEyXE,10594,aVITHKUQI CAPITAL L",
   "ETTER YyZE,10597,aVITHKUQI SMALL LETTER AwBBExEwCExHEwDExHEwEIxwFEwGA,105A3,aVITHKUQI SMALL LE",
   "TTER HAxHAwIxJEwJEwKAwLAxLAwMEwNExJEwOwPEwQAwRE,105B3,aVITHKUQI SMALL LETTER SExHEwTExHEwUwVEw",
   "XE,105BB,aVITHKUQI SMALL LETTER YwZE,10600,aLINEAR A SIGN AB001s2s3s4s5s6s7s8s9r10s1s3s6s7r20s",
   "1tFtMs2tFtMs3tMs4s6s7s8p028BpB029r30s1s4s7s8s9r40s1s4s5s6s7s8s9r50s1s3s4s5s6s7s8s9r60s1s5s6s7s",
   "9r70s3s4s6s7s8s9r80s1s2s5s6s7p100-102pB118r20p120BpB122s3r31AtBp131CpB164r71r80s8r91p301r2r3r4",
   "r5r6r7r8r9AsBsCq10r1r2r3AsBsCr4r5r6r7r8r9q20r1r2r3r4r5r6r7r8r9q30r1r2r3r4r5r6r7r8r9q40r1r2r3r4",
   "r5r6r7r8r9q50r1r2r3r4r5r6r7r8r9q60r1r2r3r4r5r6r7r8r9q70r1p400-VASr1-VASr2-VASr3-VASr4-VASr5-VA",
   "Sr6-VASr7-VASr8-VASr9-VASq10-VASr1-VASr2-VASr3-VASr4-VASr5-VASr6-VASr7-VASr8-VASp501r2r3r4r5r6",
   "r8r9q10r1r2r3r5r6q20r1r3r4r5r6r7r8r9q30r1r2r4r5r6r7r8r9q40r1r2r5r7r8r9q50r1r2r3r4r5r6r7r9q63r4",
   "r5r6r8r9q70r1r2r3r4r5r6r7r8r9q80r1r2r3r4r5r6r7r8r9q91r2r4r5r6r8p600r1r2r3r4r6r8r9q10r1r2r3r4r5",
   "r6r7r8r9q20r1r2r3r4r6r7r8r9q34r7r8q40r2r3r4r5r6r8r9q51r2r3r4r5r6r7r8r9q60r1r2r3r4,10740,aLINEA",
   "R A SIGN A701 Ar2 Br3 Dr4 Er5 Fr6 Hr7 Jr8 Kr9 Ls-2 L2t3 L3t4 L4t6 L6q10 Wr1 Xr2 Yr3 OMEGAr4 AB",
   "Br5 BBr7 DDq26 EYYYq32 JE,10760,aLINEAR A SIGN A800r1r2r3r4r5r6r7,10780,aMODIFIER LETTER SMALL",
   " CAPITAL AArUPERSCRIPT TRIANGULAR COLON$HALF TRIANGULAR COLONrMALL AEwCAPITAL BwB WITH HOOK,10",
   "787,aMODIFIER LETTER SMALL DZ DIGRAPH) WITH RETROFLEX HOOK;CURLxEZH DIGRAPHx WITH TAIL%HOOK* A",
   "ND TAILwREVERSED EwCLOSED REVERSED OPEN EwFENG DIGRAPHwRAMS HORNwCAPITAL GwG WITH HOOKwCAPITAL",
   " G WITH HOOKwH WITH STROKEwCAPITAL HwHENG WITH HOOKwDOTLESS J WITH STROKE AND HOOKwLS DIGRAPHx",
   "Z DIGRAPHx WITH BELTwCAPITAL L WITH BELTwL WITH RETROFLEX HOOK AND BELTxEZH! WITH RETROFLEX HO",
   "OKwTURNED Y& WITH BELTwO WITH STROKEwCAPITAL OExLOSED OMEGAwQwTURNED R WITH LONG LEG[ AND RETR",
   "OFLEX HOOKwR WITH TAIL%FISHHOOKwCAPITAL RwTC DIGRAPH WITH CURLxS DIGRAPH) WITH RETROFLEX HOOKx",
   "ESH DIGRAPHx WITH RETROFLEX HOOKwV WITH RIGHT HOOK,107B2,aMODIFIER LETTER SMALL CAPITAL YqGLOT",
   "TAL STOP WITH STROKEqREVERSED GLOTTAL STOP WITH STROKEqBILABIAL CLICKqDENTAL CLICKqLATERAL CLI",
   "CKqALVEOLAR CLICKqRETROFLEX CLICK WITH RETROFLEX HOOKqSMALL S WITH CURL,10800,aCYPRIOT SYLLABL",
   "E ArErIrOrUrJA,10808,aCYPRIOT SYLLABLE JO,1080A,aCYPRIOT SYLLABLE KAsEsIsOsUrLAsEsIsOsUrMAsEsI",
   "sOsUrNAsEsIsOsUrPAsEsIsOsUrRAsEsIsOsUrSAsEsIsOsUrTAsEsIsOsUrWAsEsIsO,10837,aCYPRIOT SYLLABLE X",
   "AsE,1083C,aCYPRIOT SYLLABLE ZA,1083F,aCYPRIOT SYLLABLE ZOaIMPERIAL ARAMAIC LETTER ALEPHyBETHyG",
   "IMELyDALETHyHEyWAWyZAYINyHETHyTETHyYODHyKAPHyLAMEDHyMEMyNUNySAMEKHyAYINyPEySADHEyQOPHyRESHySHI",
   "NyTAW,10857,aIMPERIAL ARAMAIC SECTION SIGNrNUMBER ONEyTWOzHREEzENzWENTYyONE HUNDRED$THOUSANDyT",
   "EN THOUSANDaPALMYRENE LETTER ALEPHrBETHrGIMELrDALETHrHErWAWrZAYINrHETHrTETHrYODHrKAPHrLAMEDHrM",
   "EMrFINAL NUNrNUNrSAMEKHrAYINrPErSADHErQOPHrRESHrSHINrTAWmFT-POINTING FLEURONkRIGHT-POINTING FL",
   "EURONkNUMBER ONErTWOsHREErFOURsIVErTENsWENTYaNABATAEAN LETTER FINAL ALEPHrALEPHrFINAL BETHrBET",
   "HrGIMELrDALETHrFINAL HErHErWAWrZAYINrHETHrTETHrFINAL YODHrYODHrFINAL KAPHrKAPHrFINAL LAMEDHrLA",
   "MEDHrFINAL MEMrMEMrFINAL NUNrNUNrSAMEKHrAYINrPErSADHErQOPHrRESHrFINAL SHINrSHINrTAW,108A7,aNAB",
   "ATAEAN NUMBER ONErTWOsHREErFOURkCRUCIFORM NUMBER FOURkNUMBER FIVErTENsWENTYrONE HUNDRED,108E0,",
   "aHATRAN LETTER ALEPHoBETHoGIMELoDALETH-RESHoHEoWAWoZAYNoHETHoTETHoYODHoKAPHoLAMEDHoMEMoNUNoSAM",
   "EKHoAYNoPEoSADHEoQOPH,108F4,aHATRAN LETTER SHINoTAW,108FB,aHATRAN NUMBER ONEoFIVEoTENpWENTYoON",
   "E HUNDREDaPHOENICIAN LETTER ALFsBETsGAMLsDELTsHEsWAUsZAIsHETsTETsYODsKAFsLAMDsMEMsNUNsSEMKsAIN",
   "sPEsSADEsQOFsROSHsSHINsTAUlNUMBER ONEsTENtWENTYsONE HUNDREDsTWOtHREE,1091F,aPHOENICIAN WORD SE",
   "PARATORaLYDIAN LETTER AoBoGoDoEoVoIoYoKoLoMoNoOoRoSSoToUoFoQoSoTToANoENoLYoNNoC,1093F,aLYDIAN ",
   "TRIANGULAR MARK,10980,aMEROITIC HIEROGLYPHIC LETTER A%E%I%O%YA%WA%BA(-2%PA%MA%NA(-2&E(-2%RA(-2",
   "%LA%KHA%HHA%SA(-2&E%KA%QA%TA(-2&E(-2&O%DAwSYMBOL VIDJ*-2jCURSIVE LETTER AyEyIyOyYAyWAyBAyPAyMA",
   "yNAzEyRAyLAyKHAyHHAySAyARCHAIC SAySEyKAyQAyTAzEzOyDA,109BC,aMEROITIC CURSIVE FRACTION ELEVEN T",
   "WELFTHS!ONE HALFrLOGOGRAM RMT!IMNrNUMBER ONEyTWOzHREEyFOURzIVEySIXzEVENyEIGHTyNINEyTENzWENTYzH",
   "IRTYyFORTYzIFTYySIXTYzEVENTY,109D2,aMEROITIC CURSIVE NUMBER ONE HUNDREDyTWO HUNDREDzHREE HUNDR",
   "EDyFOUR HUNDREDzIVE HUNDREDySIX HUNDREDzEVEN HUNDREDyEIGHT HUNDREDyNINE HUNDREDyONE THOUSANDyT",
   "WO THOUSANDzHREE THOUSANDyFOUR THOUSANDzIVE THOUSANDySIX THOUSANDzEVEN THOUSANDyEIGHT THOUSAND",
   "yNINE THOUSANDyTEN THOUSANDzWENTY THOUSANDzHIRTY THOUSANDyFORTY THOUSANDzIFTY THOUSANDySIXTY T",
   "HOUSANDzEVENTY THOUSANDyEIGHTY THOUSANDyNINETY THOUSANDyONE HUNDRED THOUSANDyTWO HUNDRED THOUS",
   "ANDzHREE HUNDRED THOUSANDyFOUR HUNDRED THOUSANDzIVE HUNDRED THOUSANDySIX HUNDRED THOUSANDzEVEN",
   " HUNDRED THOUSANDyEIGHT HUNDRED THOUSANDyNINE HUNDRED THOUSANDrFRACTION ONE TWELFTH!TWO TWELFT",
   "HS#HREE TWELFTHS!FOUR TWELFTHS#IVE TWELFTHS!SIX TWELFTHS#EVEN TWELFTHS!EIGHT TWELFTHS!NINE TWE",
   "LFTHS!TEN TWELFTHSaKHAROSHTHI LETTER AlVOWEL SIGN IwUwVOCALIC R,10A05,aKHAROSHTHI VOWEL SIGN E",
   "wO,10A0C,aKHAROSHTHI VOWEL LENGTH MARKlSIGN DOUBLE RING BELOWqANUSVARAqVISARGAlLETTER KAtHAsGA",
   "tHA,10A15,aKHAROSHTHI LETTER CAtHAsJA,10A19,aKHAROSHTHI LETTER NYAsTTAuHAsDDAuHAsNNAsTAtHAsDAt",
   "HAsNAsPAtHAsBAtHAsMAsYAsRAsLAsVAsSHAtSAtAsZAsHAsKKAsTTTHAvAsVHA,10A38,aKHAROSHTHI SIGN BAR ABO",
   "VEqCAUDAqDOT BELOW,10A3F,aKHAROSHTHI VIRAMAlDIGIT ONErTWOsHREErFOURlNUMBER TENtWENTYsONE HUNDR",
   "EDwTHOUSANDlFRACTION ONE HALF,10A50,aKHAROSHTHI PUNCTUATION DOTxSMALL CIRCLExCIRCLEyRESCENT BA",
   "RxMANGALAMxLOTUSxDANDAyOUBLE DANDAxLINES,10A60,aOLD SOUTH ARABIAN LETTER HEzLAMEDHzHETHzMEMzQO",
   "PHzWAWzSHINzRESHzBETHzTAWzSATzKAPHzNUNzKHETHzSADHE#MEKHzFEzALEF!YNzDHADHEzGIMELzDALETHzGHAYNzT",
   "ETHzZAYNzDHALETHzYODHzTHAW#ETHsNUMBER ONEzFIFTYvERIC INDICATOReNORTH ARABIAN LETTER HEHzLAMzHA",
   "HzMEEMzQAFzWAWzES-2zREHzBEHzTEHzES-1zKAFzNOONzKHAHzSADzES-3zFEHzALEF!INzDADzGEEMzDALzGHAINzTAH",
   "zZAINzTHALzYEHzTHEHzZAHsNUMBER ONEzTEN!WENTY,10AC0,aMANICHAEAN LETTER ALEPHsBETHtHETHsGIMELtHI",
   "MELsDALETHsHEsWAWlSIGN UDlLETTER ZAYINtHAYINsJAYINtHAYINsHETHsTETHsYODHsKAPHsXAPHsKHAPHsLAMEDH",
   "sDHAMEDHsTHAMEDHsMEMsNUNsSAMEKHsAYINtAYINsPEsFEsSADHEsQOPHsXOPHsQHOPHsRESHsSHINtSHINsTAWlABBRE",
   "VIATION MARK ABOVE%BELOW,10AEB,aMANICHAEAN NUMBER ONEsFIVEsTENtWENTYsONE HUNDREDlPUNCTUATION S",
   "TARxFLEURONxDOUBLE DOT WITHIN DOTzT WITHIN DOT!xTWO DOTSxLINE FILLER,10B00,aAVESTAN LETTER AqA",
   "qOqAOqNqANqErEpEqEpOqOpIqIpUqUpKEpXEqYEqVEpGEqGEqHEpCEpJEpTEqHEpDEqHEpTTEpPEpFEpBEqHEpNGErYErV",
   "EqEqYEqNEpMEpHMEpYYEqEpVEpREpLEpSEpZEpSHEpZHEpSHYEqSHEpHE,10B39,aAVESTAN ABBREVIATION MARKaTIN",
   "Y TWO DOTS OVER ONE DOT PUNCTUATIONaSMALL TWO DOTS OVER ONE DOT PUNCTUATIONaLARGE TWO DOTS OVE",
   "R ONE DOT PUNCTUATIONgONE DOT OVER TWO DOTS PUNCTUATIONgTWO RINGS OVER ONE RING PUNCTUATIONgON",
   "E RING OVER TWO RINGS PUNCTUATIONaINSCRIPTIONAL PARTHIAN LETTER ALEPH&BETH&GIMEL&DALETH&HE&WAW",
   "&ZAYIN&HETH&TETH&YODH&KAPH&LAMEDH&MEM&NUN&SAMEKH&AYIN&PE&SADHE&QOPH&RESH&SHIN&TAW,10B58,aINSCR",
   "IPTIONAL PARTHIAN NUMBER ONE&TWO(HREE&FOUR&TEN(WENTY&ONE HUNDRED+THOUSANDqHLAVI LETTER ALEPH%B",
   "ETH%GIMEL%DALETH%HE%WAW-AYIN-RESH%ZAYIN%HETH%TETH%YODH%KAPH%LAMEDH%MEM-QOPH%NUN%SAMEKH%PE%SADH",
   "E&HIN%TAW,10B78,aINSCRIPTIONAL PAHLAVI NUMBER ONE%TWO&HREE%FOUR%TEN&WENTY%ONE HUNDRED*THOUSAND",
   "aPSALTER PAHLAVI LETTER ALEPHxBETHxGIMELxDALETHxHExWAW-AYIN-RESHxZAYINxHETHxYODHxKAPHxLAMEDHxM",
   "EM-QOPHxNUNxSAMEKHxPExSADHEyHINxTAW,10B99,aPSALTER PAHLAVI SECTION MARKqTURNED SECTION MARKqFO",
   "UR DOTS WITH CROSS(DOT,10BA9,aPSALTER PAHLAVI NUMBER ONExTWOyHREExFOURxTENyWENTYxONE HUNDRED,1",
   "0C00,aOLD TURKIC LETTER ORKHON AsYENISEI A#EsORKHON IsYENISEI I!EsORKHON O!EsYENISEI OEsORKHON",
   " ABsYENISEI ABsORKHON AEBsYENISEI AEBsORKHON AGsYENISEI AGsORKHON AEGsYENISEI AEGsORKHON ADsYE",
   "NISEI ADsORKHON AEDzEZsYENISEI EZsORKHON AYsYENISEI AYsORKHON AEYsYENISEI AEYsORKHON AEKsYENIS",
   "EI AEKsORKHON OEKsYENISEI OEKsORKHON ALsYENISEI ALsORKHON AELzELT!MzAN!ENsYENISEI AENsORKHON E",
   "NTsYENISEI ENTsORKHON ENCsYENISEI ENCsORKHON ENYsYENISEI ENY!ANGsORKHON ENGsYENISEI AENGsORKHO",
   "N EPzOPzICzECsYENISEI ECsORKHON AQsYENISEI AQsORKHON IQsYENISEI IQsORKHON OQsYENISEI OQsORKHON",
   " ARsYENISEI ARsORKHON AER!S!ES!SHsYENISEI ASHsORKHON ESHsYENISEI ESHsORKHON ATsYENISEI ATsORKH",
   "ON AETsYENISEI AETsORKHON OTzBASH,10C80,aOLD HUNGARIAN CAPITAL LETTER A&A%EB%AMB%EC&NC&CS&D%AN",
   "D%E%CLOSE E%EE&F&G(Y&H%I&I%EJ&K%AK%UNK%EL(Y&M&N(Y%O&O%NIKOLSBURG OE%RUDIMENTA OE%OEE%EP&MP&R%S",
   "HORT ER%ES(Z&T&NT&TY&CH%U&U%NIKOLSBURG UE%RUDIMENTA UE%EV&Z(S&NT-SHAPED SIGN%US,10CC0,aOLD HUN",
   "GARIAN SMALL LETTER A$A#EB#AMB#EC$NC$CS$D#AND#E#CLOSE E#EE$F$G%Y$H#I$I#EJ$K#AK#UNK#EL%Y$M$N%Y#",
   "O$O#NIKOLSBURG OE#RUDIMENTA OE#OEE#EP$MP$R#SHORT ER#ES%Z$T$NT$TY$CH#U$U#NIKOLSBURG UE#RUDIMENT",
   "A UE#EV$Z%S$NT-SHAPED SIGN#US,10CFA,aOLD HUNGARIAN NUMBER ONEvFIVEvTENvFIFTYvONE HUNDREDzTHOUS",
   "ANDaHANIFI ROHINGYA LETTER AxBAxPAxTAyTAxJAxCAxHAxKHAxFAxDAyDAxRAyRAxZAxSAyHAxKAxGAxLAxMAxNAxW",
   "AxKINNA WAxYAxKINNA YAxNGAyYAxVAqVOWEL AwIwUwEwOqMARK SAKINvNA KHONNAqSIGN HARBAHAYvTAHALAxNAx",
   "SSI,10D30,aHANIFI ROHINGYA DIGIT ZEROwONEwTWOxHREEwFOURxIVEwSIXxEVENwEIGHTwNINE,10E60,aRUMI DI",
   "GIT ONElTWOmHREElFOURmIVElSIXmEVENlEIGHTlNINEfNUMBER TENnWENTYnHIRTYmFORTYnIFTYmSIXTYnEVENTYmE",
   "IGHTYmNINETYmONE HUNDREDmTWO HUNDREDnHREE HUNDREDmFOUR HUNDREDnIVE HUNDREDmSIX HUNDREDnEVEN HU",
   "NDREDmEIGHT HUNDREDmNINE HUNDREDfFRACTION ONE HALFsQUARTERsTHIRDoTWO THIRDS,10E80,aYEZIDI LETT",
   "ER ELIFoBEoPEpHEoTHEoSEoCIMpHIMqHIMoHHAoXAoDALoZALoRApHAoZAoJAoSINpHINpADoDADoTAoZEoEYNoXHEYNo",
   "FAoVAq ALTERNATE FORMoQAFoKAFpHAFoGAFoLAMoMIMoNUNoUMoWAWoOWoEWoHAYoYOToET,10EAB,aYEZIDI COMBIN",
   "ING HAMZA MARKrMADDA MARKhHYPHENATION MARK,10EB0,aYEZIDI LETTER LAM WITH DOT ABOVEoYOT WITH CI",
   "RCUMFLEX ABOVE,10F00,aOLD SOGDIAN LETTER ALEPHtFINAL ALEPHtBETHtFINAL BETHtGIMELtHEtFINAL HEtW",
   "AWtZAYINtHETHtYODHtKAPHtLAMEDHtMEMtNUNtFINAL NUN$ WITH VERTICAL TAILtSAMEKHtAYINuLTERNATE AYIN",
   "tPEtSADHEtFINAL SADHE& WITH VERTICAL TAILtRESH-AYIN-DALETHtSHINtTAWtFINAL TAW$ WITH VERTICAL T",
   "AILmNUMBER ONEtTWOuHREEtFOURuIVEtTENuWENTYuHIRTYtONE HUNDREDmFRACTION ONE HALFmLIGATURE AYIN-D",
   "ALETH,10F30,aSOGDIAN LETTER ALEPHpBETHpGIMELpHEpWAWpZAYINpHETHpYODHpKAPHpLAMEDHpMEMpNUNpSAMEKH",
   "pAYINpPEpSADHEpRESH-AYINpSHINpTAWpFETHpLESHiINDEPENDENT SHINiCOMBINING DOT BELOWsTWO DOTS BELO",
   "WsDOT ABOVEsTWO DOTS ABOVEsCURVE ABOVEyBELOWsHOOK ABOVExBELOWsLONG HOOK BELOWsRESH BELOWsSTROK",
   "E BELOWiNUMBER ONEpTENqWENTYpONE HUNDREDiPUNCTUATION TWO VERTICAL BARS: WITH DOTSuCIRCLE WITH ",
   "DOTuTWO CIRCLES WITH DOTSuHALF CIRCLE WITH DOT,10F70,aOLD UYGHUR LETTER ALEPHsBETHsGIMEL-HETHs",
   "WAWsZAYINsFINAL HETHsYODHsKAPHsLAMEDHsMEMsNUNsSAMEKHsPEsSADHEsRESHsSHINsTAWsLESHlCOMBINING DOT",
   " ABOVEzBELOWvTWO DOTS ABOVE&BELOWlPUNCTUATION BARxTWO BARS#DOTSxFOUR DOTS,10FB0,aCHORASMIAN LE",
   "TTER ALEPHsSMALL ALEPHsBETHsGIMELsDALETHsHEsWAWsCURLED WAWsZAYINsHETHsYODHsKAPHsLAMEDHsMEMsNUN",
   "sSAMEKHsAYINsPEsRESHsSHINsTAWlNUMBER ONEsTWOtHREEsFOURsTENtWENTYsONE HUNDRED,10FE0,aELYMAIC LE",
   "TTER ALEPHpBETHpGIMELpDALETHpHEpWAWpZAYINpHETHpTETHpYODHpKAPHpLAMEDHpMEMpNUNpSAMEKHpAYINpPEpSA",
   "DHEpQOPHpRESHpSHINpTAWjIGATURE ZAYIN-YODH,11000,aBRAHMI SIGN CANDRABINDUmANUSVARAmVISARGAmJIHV",
   "AMULIYAmUPADHMANIYAhLETTER ApAoIpIoUpUoVOCALIC RxRwLxLoEoAIoOoAUoKApHAoGApHAoNGAoCApHAoJApHAoN",
   "YAoTTAqHAoDDAqHAoNNAoTApHAoDApHAoNAoPApHAoBApHAoMAoYAoRAoLAoVAoSHApSApAoHAoLLAoOLD TAMIL LLLAy",
   "RRAyNNNAhVOWEL SIGN AAsBHATTIPROLU AAsItIsUtUsVOCALIC R#R!L#LsEsAIsOsAUiIRAMAhDANDAiOUBLE DAND",
   "AhPUNCTUATION DOTvUBLE DOTtLINEtCRESCENT BARtLOTUS,11052,aBRAHMI NUMBER ONEoTWOpHREEoFOURpIVEo",
   "SIXpEVENoEIGHToNINEoTENpWENTYpHIRTYoFORTYpIFTYoSIXTYpEVENTYoEIGHTYoNINETYoONE HUNDREDsTHOUSAND",
   "hDIGIT ZEROnONEnTWOoHREEnFOURoIVEnSIXoEVENnEIGHTnNINEhSIGN OLD TAMIL VIRAMAhLETTER OLD TAMIL S",
   "HORT E&OhVOWEL SIGN OLD TAMIL SHORT E+OhLETTER OLD TAMIL LLA,1107F,aBRAHMI NUMBER JOINERaKAITH",
   "I SIGN CANDRABINDUmANUSVARAmVISARGAhLETTER ApAoIpIoUpUoEoAIoOoAUoKApHAoGApHAoNGAoCApHAoJApHAoN",
   "YAoTTAqHAoDDAqDHAqHAoRHAoNNAoTApHAoDApHAoNAoPApHAoBApHAoMAoYAoRAoLAoVAoSHApSApAoHAhVOWEL SIGN ",
   "AAsItIsUtUsEsAIsOsAUhSIGN VIRAMAmNUKTAhABBREVIATION SIGNhENUMERATION SIGNhNUMBER SIGNhSECTION ",
   "MARKhDOUBLE SECTION MARKiANDAiOUBLE DANDAhVOWEL SIGN VOCALIC R,110CD,aKAITHI NUMBER SIGN ABOVE",
   ",110D0,aSORA SOMPENG LETTER SAHuTAHuBAHuCAHuDAHuGAHuMAHuNGAHuLAHuNAHuVAHuPAHuYAHuRAHuHAHuKAHuJ",
   "AHuNYAHuAHuEEHuIHuUHuOHuEHuMAE,110F0,aSORA SOMPENG DIGIT ZEROtONEtTWOuHREEtFOURuIVEtSIXuEVENtE",
   "IGHTtNINE,11100,aCHAKMA SIGN CANDRABINDUmANUSVARAmVISARGAhLETTER AAoIoUoEoKAApHAAoGAApHAAoNGAA",
   "oCAApHAAoJAApHAAoNYAAoTTAAqHAAoDDAAqHAAoNNAAoTAApHAAoDAApHAAoNAAoPAApHAAoBAApHAAoMAAoYYAApAAoR",
   "AAoLAAoWAAoSAAoHAAhVOWEL SIGN AsItIsUtUsEsAIsOsAUsOIhO MARKhAU MARKhVIRAMAhMAAYYAA,11136,aCHAK",
   "MA DIGIT ZEROnONEnTWOoHREEnFOURoIVEnSIXoEVENnEIGHTnNINEhSECTION MARKhDANDAiOUBLE DANDAhQUESTIO",
   "N MARKhLETTER LHAAhVOWEL SIGN AAsEIhLETTER VAA,11150,aMAHAJANI LETTER AqIqUqEqOqKArHAqGArHAqCA",
   "rHAqJArHAqNYAqTTAsHAqDDAsHAqNNAqTArHAqDArHAqNAqPArHAqBArHAqMAqRAqLAqVAqSAqHAqRRAjSIGN NUKTAjAB",
   "BREVIATION SIGNjSECTION MARKjLIGATURE SHRI,11180,aSHARADA SIGN CANDRABINDUnANUSVARAnVISARGAiLE",
   "TTER AqApIqIpUqUpVOCALIC RyRxLyLpEpAIpOpAUpKAqHApGAqHApNGApCAqHApJAqHApNYApTTArHApDDArHApNNApT",
   "AqHApDAqHApNApPAqHApBAqHApMApYApRApLAqLApVApSHAqSAqApHAiVOWEL SIGN AAtIuItUuUtVOCALIC R$R#L$Lt",
   "EtAItOtAUiSIGN VIRAMAnAVAGRAHAnJIHVAMULIYAnUPADHMANIYAiOMiDANDAjOUBLE DANDAiABBREVIATION SIGNi",
   "SEPARATORjANDHI MARKjIGN NUKTAiVOWEL MODIFIER MARKiEXTRA SHORT VOWEL MARKiSUTRA MARKiVOWEL SIG",
   "N PRISHTHAMATRA EiSIGN INVERTED CANDRABINDUiDIGIT ZEROoONEoTWOpHREEoFOURpIVEoSIXpEVENoEIGHToNI",
   "NEiEKAMiSIGN SIDDHAMiHEADSTROKEiCONTINUATION SIGNiSECTION MARK-1v2,111E1,aSINHALA ARCHAIC DIGI",
   "T ONEwTWOxHREEwFOURxIVEwSIXxEVENwEIGHTwNINEqNUMBER TENyWENTYyHIRTYxFORTYyIFTYxSIXTYyEVENTYxEIG",
   "HTYxNINETYxONE HUNDRED#THOUSAND,11200,aKHOJKI LETTER ApAoIoUoEoAIoOoAUoKApHAoGApGApHAoNGAoCApH",
   "AoJApJA,11213,aKHOJKI LETTER NYAoTTAqHAoDDAqHAoNNAoTApHAoDApDDApHAoNAoPApHAoBApBApHAoMAoYAoRAo",
   "LAoVAoSAoHAoLLAhVOWEL SIGN AAsItIsUsEsAIsOsAUhSIGN ANUSVARAmVIRAMAmNUKTAmSHADDAhDANDAiOUBLE DA",
   "NDAhWORD SEPARATORhSECTION MARKhDOUBLE SECTION MARKhABBREVIATION SIGNhSIGN SUKUN,11280,aMULTAN",
   "I LETTER ApIpUpEpKAqHApGA,11288,aMULTANI LETTER GHA,1128A,aMULTANI LETTER CAqHApJAqJA,1128F,aM",
   "ULTANI LETTER NYApTTArHApDDArDArHApNNApTAqHApDAqHApNApPAqHApBA,1129F,aMULTANI LETTER BHApMApYA",
   "pRApLApVApSApHApRRAqHAiSECTION MARK,112B0,aKHUDAWADI LETTER AsArIsIrUsUrErAIrOrAUrKAsHArGAsGAs",
   "HArNGArCAsHArJAsJAsHArNYArTTAtHArDDAtDArRRArDDHArNNArTAsHArDAsHArNArPAsHArBAsBAsHArMArYArRArLA",
   "rVArSHAsArHAkSIGN ANUSVARAkVOWEL SIGN AAvIwIvUwUvEvAIvOvAUkSIGN NUKTApVIRAMA,112F0,aKHUDAWADI ",
   "DIGIT ZEROqONEqTWOrHREEqFOURrIVEqSIXrEVENqEIGHTqNINE,11300,aGRANTHA SIGN COMBINING ANUSVARA AB",
   "OVEoANDRABINDUnANUSVARAnVISARGA,11305,aGRANTHA LETTER AqApIqIpUqUpVOCALIC RxL,1130F,aGRANTHA L",
   "ETTER EEpAI,11313,aGRANTHA LETTER OOpAUpKAqHApGAqHApNGApCAqHApJAqHApNYApTTArHApDDArHApNNApTAqH",
   "ApDAqHApNA,1132A,aGRANTHA LETTER PAqHApBAqHApMApYApRA,11332,aGRANTHA LETTER LAqLA,11335,aGRANT",
   "HA LETTER VApSHAqSAqApHA,1133B,aCOMBINING BINDU BELOWaGRANTHA SIGN NUKTAnAVAGRAHAiVOWEL SIGN A",
   "AtIuItUuUtVOCALIC R$R,11347,aGRANTHA VOWEL SIGN EEtAI,1134B,aGRANTHA VOWEL SIGN OOtAUiSIGN VIR",
   "AMA,11350,aGRANTHA OM,11357,aGRANTHA AU LENGTH MARK,1135D,aGRANTHA SIGN PLUTAiLETTER VEDIC ANU",
   "SVARAvDOUBLE ANUSVARAqOCALIC RRxLLiVOWEL SIGN VOCALIC L$L,11366,aCOMBINING GRANTHA DIGIT ZEROy",
   "ONEyTWOzHREEyFOURzIVEySIX,11370,aCOMBINING GRANTHA LETTER AzKAzNAzVIzPA,11400,aNEWA LETTER AnA",
   "mInImUnUmVOCALIC RvRuLvLmEmAImOmAUmKAnHAmGAnHAmNGAoHAmCAnHAmJAnHAmNYAoHAmTTAoHAmDDAoHAmNNAmTAn",
   "HAmDAnHAmNAnHAmPAnHAmBAnHAmMAnHAmYAmRAnHAmLAnHAmWAmSHAnSAnAmHAfVOWEL SIGN AAqIrIqUrUqVOCALIC R",
   "zRyLzLqEqAIqOqAUfSIGN VIRAMAkCANDRABINDUkANUSVARAkVISARGAkNUKTAkAVAGRAHAkFINAL ANUSVARAfOMfSID",
   "DHIfDANDAgOUBLE DANDAfCOMMAfGAP FILLERfABBREVIATION SIGNfDIGIT ZEROlONElTWOmHREElFOURmIVElSIXm",
   "EVENlEIGHTlNINEgOUBLE COMMAfPLACEHOLDER MARK,1145D,aNEWA INSERTION SIGNfSANDHI MARKfLETTER VED",
   "IC ANUSVARAfSIGN JIHVAMULIYAkUPADHMANIYA,11480,aTIRHUTA ANJIiLETTER AqApIqIpUqUpVOCALIC RyRxLy",
   "LpEpAIpOpAUpKAqHApGAqHApNGApCAqHApJAqHApNYApTTArHApDDArHApNNApTAqHApDAqHApNApPAqHApBAqHApMApYA",
   "pRApLApVApSHAqSAqApHAiVOWEL SIGN AAtIuItUuUtVOCALIC R$R#L$LtEtSHORT EtAItOtSHORT OtAUiSIGN CAN",
   "DRABINDUnANUSVARAnVISARGApRAMAnNUKTAnAVAGRAHAiGVANGiABBREVIATION SIGNiOM,114D0,aTIRHUTA DIGIT ",
   "ZEROoONEoTWOpHREEoFOURpIVEoSIXpEVENoEIGHToNINE,11580,aSIDDHAM LETTER AqApIqIpUqUpVOCALIC RyRxL",
   "yLpEpAIpOpAUpKAqHApGAqHApNGApCAqHApJAqHApNYApTTArHApDDArHApNNApTAqHApDAqHApNApPAqHApBAqHApMApY",
   "ApRApLApVApSHAqSAqApHAiVOWEL SIGN AAtIuItUuUtVOCALIC R$R,115B8,aSIDDHAM VOWEL SIGN EtAItOtAUiS",
   "IGN CANDRABINDUnANUSVARAnVISARGApRAMAnNUKTAnSIDDHAMiDANDAjOUBLE DANDAiSEPARATOR DOTsBARiREPETI",
   "TION MARK-1y2y3iEND OF TEXT MARKiSECTION MARK WITH TRIDENT AND U-SHAPED ORNAMENTS;DOTTED CRESC",
   "ENTS!RAYS AND DOTTED CRESCENTS?DOUBLE CRESCENTS?TRIPLE CRESCENTSvDOUBLE RING) WITH RAYSvWITH D",
   "OUBLE CRESCENTS!TRIPLE CRESCENTS!QUADRUPLE CRESCENTS!SEPTUPLE CRESCENTS!CIRCLES AND RAYS;TWO E",
   "NCLOSURES;FOUR ENCLOSURESiLETTER THREE-CIRCLE ALTERNATE IqWO-CIRCLE ALTERNATE I:IpALTERNATE Ui",
   "VOWEL SIGN ALTERNATE U&U,11600,aMODI LETTER AnAmInImUnUmVOCALIC RvRuLvLmEmAImOmAUmKAnHAmGAnHAm",
   "NGAmCAnHAmJAnHAmNYAmTTAoHAmDDAoHAmNNAmTAnHAmDAnHAmNAmPAnHAmBAnHAmMAmYAmRAmLAmVAmSHAnSAnAmHAmLL",
   "AfVOWEL SIGN AAqIrIqUrUqVOCALIC RzRyLzLqEqAIqOqAUfSIGN ANUSVARAkVISARGAmRAMAkARDHACANDRAfDANDA",
   "gOUBLE DANDAfABBREVIATION SIGNfSIGN HUVA,11650,aMODI DIGIT ZEROlONElTWOmHREElFOURmIVElSIXmEVEN",
   "lEIGHTlNINE,11660,aMONGOLIAN BIRGA WITH ORNAMENTkROTATED BIRGAkDOUBLE BIRGA WITH ORNAMENTkTRIP",
   "LE BIRGA WITH ORNAMENTkBIRGA WITH DOUBLE ORNAMENTkROTATED BIRGA WITH ORNAMENT%DOUBLE ORNAMENTk",
   "INVERTED BIRGAy WITH DOUBLE ORNAMENTkSWIRL BIRGAv WITH ORNAMENT#DOUBLE ORNAMENTkTURNED SWIRL B",
   "IRGA WITH DOUBLE ORNAMENT,11680,aTAKRI LETTER AoAnIoInUoUnEnAInOnAUnKAoHAnGAoHAnNGAnCAoHAnJAoH",
   "AnNYAnTTApHAnDDApHAnNNAnTAoHAnDAoHAnNAnPAoHAnBAoHAnMAnYAnRAnLAnVAnSHAoAnHAnRRAgSIGN ANUSVARAlV",
   "ISARGAgVOWEL SIGN AArIsIrUsUrErAIrOrAUgSIGN VIRAMAlNUKTAgLETTER ARCHAIC KHAgABBREVIATION SIGN,",
   "116C0,aTAKRI DIGIT ZEROmONEmTWOnHREEmFOURnIVEmSIXnEVENmEIGHTmNINE,11700,aAHOM LETTER KAnHAmNGA",
   "nAmTAmALTERNATE TAmPAnHAmBAmMAmJAmCHAmTHAmRAmLAmSAmNYAmHAmAmDAnHAmGAmALTERNATE GAmGHAmBHAmJHAm",
   "ALTERNATE BA,1171D,aAHOM CONSONANT SIGN MEDIAL LA#RA#LIGATING RAfVOWEL SIGN ArAqIrIqUrUqEqAWqO",
   "qAIrMfSIGN KILLER,11730,aAHOM DIGIT ZEROlONElTWOmHREElFOURmIVElSIXmEVENlEIGHTlNINEfNUMBER TENn",
   "WENTYfSIGN SMALL SECTIONlECTIONkRULAIgYMBOL VIfLETTER CAmTTAoHAmDDAoHAmNNAmLLA,11800,aDOGRA LE",
   "TTER AoAnIoInUoUnEnAInOnAUnKAoHAnGAoHAnNGAnCAoHAnJAoHAnNYAnTTApHAnDDApHAnNNAnTAoHAnDAoHAnNAnPA",
   "oHAnBAoHAnMAnYAnRAnLAnVAnSHAoSAoAnHAnRRAgVOWEL SIGN AArIsIrUsUrVOCALIC R!RrErAIrOrAUgSIGN ANUS",
   "VARAlVISARGAnRAMAlNUKTAgABBREVIATION SIGN,118A0,aWARANG CITI CAPITAL LETTER NGAA#A#WI#YU$A$O#I",
   "I#UU#E#O#ANG#GA#KO#ENY#YUJ#UC#ENN#ODD#TTE#NUNG#DA#AT$M#BU#PU#HIYO$OLO%RR$AR#SSUU$II#VIYOmSMALL",
   " LETTER NGAAzAzWIzYU!A!OzIIzUUzEzOzANGzGAzKOzENYzYUJzUCzENNzODDzTTEzNUNGzDAzAT!MzBUzPUzHIYO!OL",
   "O#RR!ARzSSUU!IIzVIYOmDIGIT ZEROsONEsTWOtHREEsFOURtIVEsSIXtEVENsEIGHTsNINEmNUMBER TENuWENTYuHIR",
   "TYtFORTYuIFTYtSIXTYuEVENTYtEIGHTYtNINETY,118FF,aWARANG CITI OMaDIVES AKURU LETTER AuAtIuItUuUt",
   "E,11909,aDIVES AKURU LETTER O,1190C,aDIVES AKURU LETTER KAuHAtGAuHAtNGAtCAuHAtJA,11915,aDIVES ",
   "AKURU LETTER NYAtTTA,11918,aDIVES AKURU LETTER DDAvHAtNNAtTAuHAtDAuHAtNAtPAuHAtBAuHAtMAtYAuYAt",
   "RAtLAtVAtSHAuSAuAtHAtLLAtZAmVOWEL SIGN AAxIyIxUyUxE,11937,aDIVES AKURU VOWEL SIGN AIxO,1193B,a",
   "DIVES AKURU SIGN ANUSVARArCANDRABINDUrHALANTAmVIRAMAmPREFIXED NASAL SIGNmMEDIAL YAmINITIAL RAm",
   "MEDIAL RAmSIGN NUKTAmDOUBLE DANDAmGAP FILLERmEND OF TEXT MARK,11950,aDIVES AKURU DIGIT ZEROsON",
   "EsTWOtHREEsFOURtIVEsSIXtEVENsEIGHTsNINE,119A0,aNANDINAGARI LETTER AuAtIuItUuUtVOCALIC R$R,119A",
   "A,aNANDINAGARI LETTER EtAItOtAUtKAuHAtGAuHAtNGAtCAuHAtJAuHAtNYAtTTAvHAtDDAvHAtNNAtTAuHAtDAuHAt",
   "NAtPAuHAtBAuHAtMAtYAtRAtLAtVAtSHAuSAuAtHAtLLAtRRAmVOWEL SIGN AAxIyIxUyUxVOCALIC R)R,119DA,aNAN",
   "DINAGARI VOWEL SIGN ExAIxOxAUmSIGN ANUSVARArVISARGAtRAMArAVAGRAHArSIDDHAMmHEADSTROKEmVOWEL SIG",
   "N PRISHTHAMATRA E,11A00,aZANABAZAR SQUARE LETTER ArVOWEL SIGN I$UE%$E$OE%$AI%U$REVERSED IxLENG",
   "TH MARKrLETTER KAzHAyGAzHAyNGAyCAzHAyJAyNYAyTTA!HAyDDA!HAyNNAyTAzHAyDAzHAyNAyPAzHAyBAzHAyMAyTS",
   "A!HAyDZA!HAyZHAzAy-AyYAyRAyLAyVAySHAzSAzAyHAyKSSArFINAL CONSONANT MARKrSIGN VIRAMAwCANDRABINDU",
   "* WITH ORNAMENT$ WITH ORNAMENTwANUSVARAwVISARGArCLUSTER-INITIAL LETTER RAzFINAL LETTER YA;RA;L",
   "A;VArINITIAL HEAD MARKrCLOSING HEAD MARKrMARK TSHEGwSHADwDOUBLE SHADwLONG TSHEGrINITIAL DOUBLE",
   "-LINED HEAD MARKrCLOSING DOUBLE-LINED HEAD MARKrSUBJOINER,11A50,aSOYOMBO LETTER AiVOWEL SIGN I",
   "tUEutEtOuEtAIuUtVOCALIC R#LoLENGTH MARKiLETTER KAqHApGAqHApNGApCAqHApJAqHApNYApTTArHApDDArHApN",
   "NApTAqHApDAqHApNApPAqHApBAqHApMApTSArHApDZApZHAqAp-ApYApRApLApVApSHAqSAqApHApKSSAiSIGN JIHVAMU",
   "LIYAnUPADHMANIYAiCLUSTER-INITIAL LETTER RA(LA(SHA)AiFINAL CONSONANT SIGN G%K%NG%D%N%B%M%R%L%SH",
   "&%-AiSIGN ANUSVARAnVISARGAiGEMINATION MARKiSUBJOINERiMARK TSHEGnSHADnDOUBLE SHADnPLUTAiHEAD MA",
   "RK WITH MOON AND SUN AND TRIPLE FLAME=FLAME.iTERMINAL MARK-1w2,11AB0,aCANADIAN SYLLABICS NATTI",
   "LIK HI&I%O&O%A&A$SHRI)I(O)O(A)AtSPEvIvOvAaPAU CIN HAU LETTER PAtKAtLAtMAtDAtZAtVAtNGAtHAtGAtKH",
   "AtSAtBAtCAtTAuHAtNAtPHAtRAtFAtCHAtAtEtItOtUuAtIAtFINAL PzKzTzMzNzLzWzNGzYmRISING TONE LONGxmSA",
   "NDHI GLOTTAL STOPmRISING TONE LONG FINALyFINALmSANDHI GLOTTAL STOP FINALtTONE LONGxx LONG FINA",
   "LyFINALmMID-LEVEL TONEmGLOTTAL STOP VARIANTmMID-LEVEL TONE LONG FINAL#FINALmLOW-FALLING TONE L",
   "ONG$mGLOTTAL STOPmLOW-FALLING TONE LONG FINAL%FINALmGLOTTAL STOP FINAL,11C00,aBHAIKSUKI LETTER",
   " AsArIsIrUsUrVOCALIC R!RzL,11C0A,aBHAIKSUKI LETTER ErAIrOrAUrKAsHArGAsHArNGArCAsHArJAsHArNYArT",
   "TAtHArDDAtHArNNArTAsHArDAsHArNArPAsHArBAsHArMArYArRArLArVArSHAsSAsArHAkVOWEL SIGN AAvIwIvUwUvV",
   "OCALIC R&R%L,11C38,aBHAIKSUKI VOWEL SIGN EvAIvOvAUkSIGN CANDRABINDUpANUSVARApVISARGArRAMApAVAG",
   "RAHAkDANDAlOUBLE DANDAkWORD SEPARATORkGAP FILLER-1v2,11C50,aBHAIKSUKI DIGIT ZEROqONEqTWOrHREEq",
   "FOURrIVEqSIXrEVENqEIGHTqNINEkNUMBER ONErTWOsHREErFOURsIVErSIXsEVENrEIGHTrNINErTENsWENTYsHIRTYr",
   "FORTYsIFTYrSIXTYsEVENTYrEIGHTYrNINETYkHUNDREDS UNIT MARK,11C70,aMARCHEN HEAD MARKiMARK SHADiLE",
   "TTER KAqHApGApNGApCAqHApJApNYApTAqHApDApNApPAqHApBApMApTSArHApDZApWApZHAqAp-ApYApRApLApSHAqApH",
   "ApA,11C92,aMARCHEN SUBJOINED LETTER KA!HAzGAzNGAzCA!HAzJAzNYAzTA!HAzDAzNAzPA!HAzBAzMAzTSA#HAzD",
   "ZAzWAzZHA!A,11CA9,aMARCHEN SUBJOINED LETTER YAzRAzLAzSHA!AzHAzAiVOWEL SIGN AAtItUtEtOiSIGN ANU",
   "SVARAnCANDRABINDU,11D00,aMASARAM GONDI LETTER AwAvIwIvUwUvE,11D08,aMASARAM GONDI LETTER AIvO,1",
   "1D0B,aMASARAM GONDI LETTER AUvKAwHAvGAwHAvNGAvCAwHAvJAwHAvNYAvTTAxHAvDDAxHAvNNAvTAwHAvDAwHAvNA",
   "vPAwHAvBAwHAvMAvYAvRAvLAvVAvSHAwSAwAvHAvLLAvKSSAvJNYAvTRAoVOWEL SIGN AAzI!IzU!UzVOCALIC R,11D3",
   "A,aMASARAM GONDI VOWEL SIGN E,11D3C,aMASARAM GONDI VOWEL SIGN AIzO,11D3F,aMASARAM GONDI VOWEL ",
   "SIGN AUoSIGN ANUSVARAtVISARGAtNUKTAtCANDRAtHALANTAoVIRAMAoREPHApA-KARA,11D50,aMASARAM GONDI DI",
   "GIT ZEROuONEuTWOvHREEuFOURvIVEuSIXvEVENuEIGHTuNINE,11D60,aGUNJALA GONDI LETTER AwAvIwIvUwU,11D",
   "67,aGUNJALA GONDI LETTER EEvAI,11D6A,aGUNJALA GONDI LETTER OOvAUvYAvVAvBAwHAvMAvKAwHAvTAwHAvLA",
   "vGAwHAvDAwHAvNAvCAwHAvTTAxHAvLLAvJAwHAvDDAxHAvNGAvPAwHAvHAvRAvSAoVOWEL SIGN AAzI!IzU!U,11D90,a",
   "GUNJALA GONDI VOWEL SIGN EEzAI,11D93,aGUNJALA GONDI VOWEL SIGN OOzAUoSIGN ANUSVARAtVISARGAoVIR",
   "AMAoOM,11DA0,aGUNJALA GONDI DIGIT ZEROuONEuTWOvHREEuFOURvIVEuSIXvEVENuEIGHTuNINE,11EE0,aMAKASA",
   "R LETTER KApGApNGApPApBApMApTApDApNApCApJApNYApYApRApLApVApSApAiANGKAiVOWEL SIGN ItUtEtOiPASSI",
   "MBANGiEND OF SECTION,11FB0,aLISU LETTER YHA,11FC0,aTAMIL FRACTION ONE THREE-HUNDRED-AND-TWENTI",
   "ETHtONE-HUNDRED-AND-SIXTIETHtEIGHTIETHtSIXTY-FOURTHtFORTIETHtTHIRTY-SECONDpTHREE EIGHTIETHSvSI",
   "XTY-FOURTHSpONE TWENTIETHtSIXTEENTH-1%2tTENTHtEIGHTHpTHREE TWENTIETHSvSIXTEENTHSpONE FIFTHtQUA",
   "RTERtHALF-1y2pTHREE QUARTERSpDOWNSCALING FACTOR KIIZHgSIGN NELlCEVITUlAAZHAAKKUlUZHAKKUlMUUVUZ",
   "HAKKUlKURUNIlPATHAKKUlMUKKURUNIlKAACUlPANAMmONlVARAAKANlPAARAMlKUZHIlVELIgWET CULTIVATION SIGN",
   "gDRY CULTIVATION SIGNgLAND SIGNgSALT PAN SIGNgTRADITIONAL CREDIT SIGNsNUMBER SIGNgCURRENT SIGN",
   "gAND ODD SIGNgSPENT SIGNgTOTAL SIGNgIN POSSESSION SIGNgSTARTING FROM SIGNhIGN MUTHALIYAlVAKAIY",
   "ARAA,11FFF,aTAMIL PUNCTUATION END OF TEXTaCUNEIFORM SIGN Aq TIMES AxBADxGAN2 TENUxHAxIGIxLAGAR",
   " GUNUxMUSHxSAGq2qBr TIMES ASH2yDUN3 GUNUyGAL!N2 TENUyHAyIGI GUNUzMINyLAGABySHESHyU PLUS U PLUS",
   " UsGUNUr2s TIMES BALAGzGAN2 TENUzME PLUS ENzSHA3zTAK4qDqKr TIMES ERIN2ySHITA PLUS GISHqLr TIME",
   "S ALyDIM2yGISHyHAyKAD3zIySHEyUSHrANrEPHqMARt TIMES SHEqNr OVER ANsTHREE TIMESsPLUS NAGA OPPOSI",
   "NG AN PLUS NAGA$SQUAREDrSHEqPINqRADt TIMES KURrKABqSAL2rHs ZIDA TENUtKABA TENUtOVER ASH TUG2 O",
   "VER TUG2 TUG2 OVER TUG2 PAP$OVER ASH/ CROSSING ASH OVER ASH OVER ASHs2sGABpBArDrG3rHAR2rLs OVE",
   "R BALsAGrRsA2qIr TIMES AyGARyIGI GUNUqUr OVER BU AB!UNsCROSSING BUrLUGu OVER BULUGrRs2pDArGs K",
   "ISIM5 TIMES A PLUS MASH*MAR)BALAG*I)GA+ PLUS MASH*I+R2*UD)HA)IR+ PLUS LU)KAK)LA*U+ PLUS MASH2+",
   "M)NE)PAP PLUS PAP)SI)TAK4)U2 PLUS GIR2*SHrMrRsA3t4qIrBrMs TIMES SHEs2rNs KASKAL U GUNU DISHrSH",
   "qUr OVER DUsGUNUsSHESHIGrBs TIMES ESH2s2rGsUDrHrNs3t GUNUy GUNUs4rR2pEq TIMES PAPrOVER E NUN O",
   "VER NUNq2r TIMES A PLUS HA PLUS DAyGARyMIySALzHEyUqDINqGIRqLqNr TIMES GAN2$ TENUyMEsCROSSING E",
   "NsOPPOSING ENsSQUAREDqRENrIN2qSH2qZENt TIMES A# PLUS LAL/ TIMES LAL#N!BAD!DUN3 GUNU. GUNU!HA$ ",
   "GUNU!IGI GUNU!KASKAL) SQUARED#U3!LA$L TIMES LAL#I#U!U2#DpGAr GUNUr2s TIMES A PLUS DA PLUS HA)H",
   "A)IGI!B2 TENU PLUS TAB!N!SH$2 PLUS GALzBAD#R PLUS RA!UR$ PLUS RAzDA!I#M TIMES SHE!UBzEL# PLUS ",
   "LA!N# TIMES GAN2 TENUzGAN2 TENU#R!I#4$ PLUS A#R2 PLUS SUzHA PLUS LU PLUS ESH2#L$ PLUS LA!I PLU",
   "S LI!UB2zIGI GUNU!SH PLUS HU PLUS ASHzKAK#SKAL!ID$ PLUS LAL!U3 PLUS ANzLAzME PLUS EN!IzNUN$ OV",
   "ER NUNzPAzSAL#R!HE$ PLUS TUR#ID!UMzTAK4zU!D# PLUS DUtOVER GA2rBAt CROSSING GABArDs OVER GAD GA",
   "R OVER GARrLs GAD OVER GAD GAR OVER GARsAMrMrNs2t TENUuOVER GAN2uCROSSING GAN2rRs3rSHANqESHTIN",
   "w TIMES KURqIr TIMES EyUsCROSSING GIr4s OVER GI4tCROSSING GI4rDIMrR2t GUNUs3t TIMES A PLUS IGI",
   "!GAN2 TENU!IGI!LU PLUS IGI!PArSALsHt CROSSING GISHuTIMES BAD!TAK4vENUqUr CROSSING GUr2s TIMES ",
   "KAK$ TIMES IGI GUNUzNUNzSAL PLUS TUG2tGUNUrDs TIMES A PLUS KURzKURtOVER GUD LUGALrLrMs TIMES S",
   "HErRs7sUNtSHpHAr TENUsGUNUrLqIr TIMES ASH#2yBADyDISHyGADyKINyNUNySHEyUqUrB2t TIMES AN!HAL!KASK",
   "AL!LISH!UDrL2pIq AqBqDIMt OVER IDIM BUR&SQUAREDqGrIs DIBtRItOVER IGI SHIR OVER SHIR UD OVER UD",
   "tGUNUqLr TIMES GAN2 TENUr2qMr TIMES TAK4sCROSSING IMsOPPOSING IMsSQUAREDrINqNqRqSHpKAr TIMES A",
   "zD! PLUS KU3zSH2yBAD!LAG!RzIyERIN2zSH2yGA!L!N2 TENU!R# PLUS SHA3 PLUS AzI!R2!SH PLUS SAR%CROSS",
   "ING GISHzU!R7yIGIzMyKAKzI!DyLIzUyME! PLUS DU)GI)TEzI! PLUS NUNUZyNEzUNyPIyRUySA!RzHA!E!ID!UzIG",
   "zUHURyTARyUz2zDzMUM TIMES PAzSHyZIr2s CROSSING KA2rBrD2s3s4s5t OVER KAD5rKs TIMES IGI GUNUrLs ",
   "TIMES BADtCROSSING KALrM2s4rSKALv LAGAB TIMES U OVER LAGAB TIMES UwOVER KASKAL LAGAB TIMES U O",
   "VER LAGAB TIMES UqESH2qIr TIMES BADyUzDrDrNrSALsHsIM5v OVER KISIM5qUr OVER HI TIMES ASH2 KU OV",
   "ER HI TIMES ASH2r3r4s VARIANT FORMr7rLs GUNUrNrRs OPPOSING KURrSHU2qWU318pLArGABu TIMES A$ PLU",
   "S DA PLUS HA+GAR+LAL$L$N$SH ZIDA TENU#BAD$I#DAR#EN#GA%R$UD& PLUS GUD#HA%L$I TIMES NUN#IGI GUNU",
   "$M% PLUS HA.LU#KI%N$U3%L& PLUS HI PLUS A#LAGAB$ISH$U%L#ME% PLUS EN$USH#NE#SHE PLUS SUM%ITA PLU",
   "S GISH PLUS ERIN2@TENU%U2( PLUS SHU2$UM#TAG%K4$E PLUS A PLUS SU PLUS NA#U$ PLUS A+U PLUS U$2 P",
   "LUS ASH$D$SHvSQUAREDtRu TIMES SHE& PLUS SUMvGUNUz OVER LAGAR GUNU SHErHSHUrLs TIMES LALrMs TIM",
   "ES KUR$ PLUS RUqIrLrMMU2rSHqUr TIMES BADr2s TIMES ALzBADzESH2% TENUzGAN2 TENUzHI TIMES BADzIMz",
   "KAD2$3% PLUS ASH!IzLA PLUS ASH#GABzME PLUS ENzNE!UzSI PLUS ASH#K2 PLUS BUzTUG2uENUtCROSSING LU",
   "2tOPPOSING LU2tSQUAREDuHESHIGr3rGALu OVER LUGALwPPOSING LUGALvSHESHIGrHrLrMs OVER LUM# GAR OVE",
   "R GARpMAr TIMES TAK4sGUNUr2rHrRrSHt2qErSqIrNqUr OVER MUrGs GUNUrNSUBrRGU2rSHt TIMES A!KUR!ZAuO",
   "VER MUSH% TIMES A PLUS NAuCROSSING MUSHt3u TIMES A$ PLUS DI#DIvGUNUpNAr2rGAt INVERTEDuTIMES SH",
   "U TENUuOPPOSING NAGAtRrM NUTILLUss2qEr TIMES AyUDsSHESHIGqIr TIMES Er2rMs TIMES GAN2 TENU#R PL",
   "US GAN2 TENUrNDA2v TIMES AN%SH( PLUS ASH$GUD$ME PLUS GAN2 TENU$NE%UN$SHE( PLUS A AN;SH= PLUS A",
   "SH$U2 PLUS ASH%SHrSAGqUr11rNs LAGAR TIMES GAR(MASH(SAL+ OVER NUN LAGAR TIMES SAL(USHtTENUtOVER",
   " NUNtCROSSING NUN( LAGAR OVER LAGARsUZu AB2 TIMES ASHGAB(BI(DUG(GUD(IGI GUNU(KAD3(LA(NE(SILA3(",
   "U2vKISIM5 TIMES BI/ UpPArDrNrPqESH2qIr TIMES AzByBIzUyEyIzByUz2sCROSSING PIrRIGu TIMES KAL#UD#",
   "ZAvOPPOSING PIRIGpRArBqIqUpSArG NUTILLUss TIMES AzDU#BzHAzKAK!URzLUMzMIzNUNzSAL!HIDzTABzU2!B!M",
   "!R!SHtOVER SAGtGUNUrLs LAGAB TIMES ASH2rNGA2rRqHAs3t TIMES A!BAD!GISH!NE!SHU2!TUR!U# PLUS As6s",
   "B6sR2rEs HUtOVER SHE GAD OVER GAD GAR OVER GAR$TAB OVER TAB GAR OVER GARsG9sNsSHu2uLAMrIDt TIM",
   "ES A!IMsMt TIMES A!BAL#ULUG!DIN!GAR!IGI% GUNU!KUSHU2!LUL!MUG!SALsNIGsRt TENUuOVER SHIR BUR OVE",
   "R BURsTArUs OVER INVERTED SHUs2sBURqIr GUNUrGs4t OVER SIG4 SHU2rK2rLA3qUr OVER SUrDs2rHURrMsAS",
   "HrRs9pTAr ASTERISKsTIMES HIyMIsGUNUrBs OVER TAB NI OVER NI DISH OVER DISHtSQUAREDrGs TIMES BIz",
   "GUDzSHE#UzTUG2zUDrK4rRqEr GUNUqIr TENUrLrRs TIMES TAK4tOVER TIR# GAD OVER GAD GAR OVER GARqUrG",
   "2rKrMrRs OVER TUR ZA OVER ZApUq GUDrU UrOVER U PA OVER PA GAR OVER GARySUR OVER SURyU REVERSED",
   " OVER U REVERSEDq2qBqDr KUSHU2sTIMES BADyMIyU PLUS U PLUS U< GUNUsGUNUsSHESHIGz TIMES BADrUGqM",
   "r TIMES LAGAByME PLUS DAySHA3yUrBINrUMt TIMES KASKAL!PAqNr GUNUqRr CROSSING URsSHESHIGr2s TIME",
   "S A PLUS HA)NA!LzHAzNUNzU2# PLUS ASH*BIr4rIs3rUs TIMES A!SHGABzBARzDUNzGA#L#N2 TENU#R!UzHAzIGI",
   "!M!SHzKIzLUMzMINzPAzSHE!IG4zTUzU PLUS GUD!D!RUDAsDAu TIMES UqSHs TIMES AzKU#RzTAK4sXs2sUMXqTUK",
   "IqZ3s TIMES KASKALrUpZAr TENUsSQUARED TIMES KURrGrMXqE2qIr OVER ZIr3rBs KABA TENUrGrZ2qUr5s TI",
   "MES ArBURrMpKAP ELAMITEpAB TIMES NUNr2 TIMES AqMAR TIMES KUGpDAG KISIM5 TIMES U2 PLUS MASHs3qI",
   "SH PLUS SHUqUB TIMES SHEpEZEN TIMES GUD!SHEpGA2 TIMES AN PLUS KAK PLUS A!SH2qE22qIGpHUSHpKA TI",
   "MES ANSHEzSH3yGISHzUDyHI TIMES ASH2yLUMyPAySHULyTUyUR2pLAGAB TIMES GIqU2 SHESHIG TIMES BADtTIM",
   "ES ESH2 PLUS LALzSHUpMESHqUSH3 TIMES ZApNA4qINs9sDA2 TIMES BAL$GIqU11 ROTATED NINETY DEGREESpP",
   "ESH2 ASTERISKqIR2pSAG TIMES IGI GUNUpTI2pUM TIMES MEq U,12400,aCUNEIFORM NUMERIC SIGN TWO ASHy",
   "HREE ASHxFOUR ASHyIVE ASHxSIX ASHyEVEN ASHxEIGHT ASHxNINE ASHxTHREE DISHxFOUR DISHyIVE DISHxSI",
   "X DISHyEVEN DISHxEIGHT DISHxNINE DISHxFOUR UyIVE UxSIX UyEVEN UxEIGHT UxNINE UxONE GESH2xTWO G",
   "ESH2yHREE GESH2xFOUR GESH2yIVE GESH2xSIX GESH2yEVEN GESH2xEIGHT GESH2xNINE GESH2xONE GESHUxTWO",
   " GESHUyHREE GESHUxFOUR GESHUyIVE GESHUxTWO SHAR2yHREE SHAR2+ VARIANT FORMxFOUR SHAR2yIVE SHAR2",
   "xSIX SHAR2yEVEN SHAR2xEIGHT SHAR2xNINE SHAR2xONE SHARUxTWO SHARUyHREE SHARU+ VARIANT FORMxFOUR",
   " SHARUyIVE SHARUxSHAR2 TIMES GAL PLUS DISH[MINxONE BURUxTWO BURUyHREE BURU* VARIANT FORMxFOUR ",
   "BURUyIVE BURUxTHREE VARIANT FORM ESH16]21xFOUR VARIANT FORM LIMMU^4^ A_BxSIX VARIANT FORM ASH9",
   "yEVEN VARIANT FORM IMIN3^ A_BxEIGHT VARIANT FORM USSU^3xNINE VARIANT FORM ILIMMU_3_4_ AxTWO AS",
   "H TENUyHREE ASH TENUxFOUR ASH TENUyIVE ASH TENUxSIX ASH TENUxONE BAN2xTWO BAN2yHREE BAN2xFOUR ",
   "BAN2) VARIANT FORMyIVE BAN2) VARIANT FORMxNIGIDAMIN%ESHxONE ESHE3xTWO ESHE3xONE THIRD DISHxTWO",
   " THIRDS DISHxFIVE SIXTHS DISHxONE THIRD VARIANT FORM AxTWO THIRDS VARIANT FORM AxONE EIGHTH AS",
   "H#QUARTER ASHyLD ASSYRIAN ONE SIXTH=QUARTERyNE QUARTER GUR#HALF GURxELAMITE ONE THIRD(TWO THIR",
   "DS(FORTY)IFTYxFOUR U VARIANT FORMyIVE U VARIANT FORMxSIX U VARIANT FORMyEVEN U VARIANT FORMxEI",
   "GHT U VARIANT FORMxNINE U VARIANT FORM,12470,aCUNEIFORM PUNCTUATION SIGN OLD ASSYRIAN WORD DIV",
   "IDER#VERTICAL COLON#DIAGONAL COLON/TRICOLON/QUADCOLON,12480,aCUNEIFORM SIGN AB TIMES NUN TENUy",
   "SHU2qD TIMES ESH2pBAD TIMES DISH TENUrHAR2 TIMES AB2$NI$ZAqU OVER BU TIMES NA2pDA TIMES TAK4rG",
   " TIMES KURqIM TIMES IGIzU U Us2 TIMES UDqUG TIMES ANSHE!SH$ AT LEFTzDIN!UNzERIN2zGA!I#R2 GUNU#",
   "SHzHA!IzIGI GUNUzKASKAL!UR#SHU2( PLUS KASKALzLAK-020#M$ TIMES KUR!UH PLUS GISHzMASH!ES!IzNIzPI",
   "zSHE!I GUNUpE2 TIMES KURyPAPqRIN2 XqSH2 CROSSING ESH2qZEN SHESHIG TIMES ASH+HI+IGI GUNU+LA/L+M",
   "E/S+SUuTIMES SUpGA2 TIMES BAHAR2zDIM GUNU!UG TIMES IGI GUNU.KASKALzERENzGA#R PLUS DI+NEzHA PLU",
   "S AzKUSHU2 PLUS KASKALzLAM$ TIMES KUR!UHzMUSHzNE# PLUS E2*GIzSHIMzZIZ2rBA ROTATED NINETY DEGRE",
   "ESqESHTIN TIMES UqISH TIMES GISH CROSSING GISHqU2 TIMES IGI GUNUrD PLUS GISH TIMES TAK4pHA TEN",
   "U GUNUqI TIMES ASH OVER HI TIMES ASHpKA TIMES BUyKAyU U UzRpLAGAB TIMES ZU OVER ZUrK-003u21v5u",
   "30u50v1u62u79 OVER LAK-079 GUNUu80v1 OVER LAK-081u92t130u42t210v9u20v5v8u38u65v6t343v7v8u83v4u",
   "90t441v9w TIMES GU%IGI%PAP PLUS LU3;PAP PLUS LU3%U2 PLUS BAu50v7u70u83u90v2v3v5t550t608u17w TI",
   "MES ASH%BAD%DUN3 GUNU GUNU%KU3%LA%TAR&E%U2&D&RUDAu36u48w TIMES DUB%GA%IGI) GUNU%NI%PAP PLUS PA",
   "P PLUS LU3%SHESH PLUS KI%UD&RUDAt724u49qU2 GUNU TIMES ASHtTIMES DISHzHALzPAP$ PLUS PAP PLUS LU",
   "3zTAK4pMI PLUS ZA7qUSH OVER MUSH TIMES GA/KAKpNINDA2 TIMES DIM GUNU$GISH%UL$HI$KESH2$LAK-050$M",
   "ASH$PAP PLUS PAP$U% PLUS U%RUDApSAG GUNU TIMES HAtTIMES ENzSHE AT LEFTzTAK4qHA6 TENUrE OVER SH",
   "EtPLUS HUB2yNAM2ySARrU2 PLUS DUG TIMES NIzE2 TIMES ANqI TIMES TAK4pTAK4 PLUS SAGqUM TIMES GAN2",
   " TENUzTHREE DISHpUR2 INVERTEDtTIMES UDrU TIMES DARA3zLAK-668!U3pZA7qU OVER ZU PLUS SARr5 TIMES",
   " THREE DISH TENU,12F90,aCYPRO-MINOAN SIGN CM001w2w4w5w6w7w8w9v10w1w2xBw3w5w7w9v21w3w4w5w6w7w8w",
   "9v30w3w4w5w6w7w8w9v40w1w4w6w7w9v50w1w2w3w4w5w6w8w9v60w1w2w3w4w6w7w8w9v70w1w2w3w4w5xBw6w8w9v80w",
   "1w2w3w4w5w6w7w8w9v90w1w2w4w5w6w7w8w9u100w1w2w3w4w5w7w8w9v10w2w4u301w2,13000,aEGYPTIAN HIEROGLY",
   "PH A001x2x3x4x5yAx6yAyBx7x8x9w10x1x2x3x4yAx5x6x7yAx8x9w20x1x2x3x4x5x6x7x8x9w30x1x2yAx3x4x5x6x7",
   "x8x9w40yAx1x2yAx3yAx4x5yAx6x7x8x9w50x1x2x3x4x5x6x7x8x9w60x1x2x3x4x5x6x7x8x9w70uB001x2x3x4x5yAx",
   "6x7x8x9uC001x2yAyByCx3x4x5x6x7x8x9w10yAx1x2x3x4x5x6x7x8x9w20x1x2x3x4uD001x2x3x4x5x6x7x8yAx9w10",
   "x1x2x3x4x5x6x7x8x9w20x1x2x3x4x5x6x7yAx8x9w30x1yAx2x3x4yAx5x6x7x8x9w40x1x2x3x4x5x6yAx7x8yAx9w50",
   "yAyByCyDyEyFyGyHyIx1x2yAx3x4yAx5x6x7x8x9w60x1x2x3x4x5x6x7yAyByCyDyEyFyGyHuE001x2x3x4x5x6x7x8yA",
   "x9yAw10x1x2x3x4x5x6yAx7yAx8x9w20yAx1x2x3x4x5x6x7x8yAx9w30x1x2x3x4yAx6x7x8uF001yAx2x3x4x5x6x7x8",
   "x9w10x1x2x3yAx4x5x6x7x8x9w20x1yAx2x3x4x5x6x7x8x9w30x1yAx2x3x4x5x6x7yAx8yAx9w40x1x2x3x4x5yAx6yA",
   "x7yAx8x9w50x1yAyByCx2x3uG001x2x3x4x5x6yAx7yAyBx8x9w10x1yAx2x3x4x5x6x7x8x9w20yAx1x2x3x4x5x6yAx7",
   "x8x9w30x1x2x3x4x5x6yAx7yAx8x9w40x1x2x3yAx4x5yAx6x7x8x9w50x1x2x3x4uH001x2x3x4x5x6yAx7x8uI001x2x",
   "3x4x5yAx6x7x8x9yAw10yAx1yAx2x3x4x5uK001x2x3x4x5x6x7x8uL001x2yAx3x4x5x6yAx7x8uM001yAyBx2x3yAx4x",
   "5x6x7x8x9w10yAx1x2yAyByCyDyEyFyGyHx3x4x5yAx6yAx7yAx8x9w20x1x2yAx3x4yAx5x6x7x8yAx9w30x1yAx2x3yA",
   "yBx4x5x6x7x8x9w40yAx1x2x3x4uN001x2x3x4x5x6x7x8x9w10x1x2x3x4x5x6x7x8yAyBx9w20x1x2x3x4x5yAx6x7x8",
   "x9w30x1x2x3yAx4yAx5yAx6x7yAx8x9w40x1x2vL001y2y3y4y5zAy6y7y8y9x10y1y2y3y4y5y6y7zAy8y9x20vU001y2",
   "y3y4y5y6y7y8y9x10zAy1zAy2y3y4y5y6y7y8zAy9x20y1y2zAuO001yAx2x3x4x5yAx6yAyByCyDyEyFx7x8x9w10yAyB",
   "yCx1x2x3x4x5x6x7x8x9yAw20yAx1x2x3x4yAx5yAx6x7x8x9yAw30yAx1x2x3yAx4x5x6yAyByCyDx7x8x9w40x1x2x3x",
   "4x5x6x7x8x9w50yAyBx1uP001yAx2x3yAx4x5x6x7x8x9w10x1uQ001x2x3x4x5x6x7uR001x2yAx3yAyBx4x5x6x7x8x9",
   "w10yAx1x2x3x4x5x6yAx7x8x9w20x1x2x3x4x5x6x7x8x9uS001x2yAx3x4x5x6yAx7x8x9w10x1x2x3x4yAyBx5x6x7yA",
   "x8x9w20x1x2x3x4x5x6yAyBx7x8x9w30x1x2x3x4x5yAx6x7x8x9w40x1x2x3x4x5x6uT001x2x3yAx4x5x6x7yAx8yAx9",
   "yAw10x1yAx2x3x4x5x6yAx7x8x9w20x1x2x3x4x5x6x7x8x9w30x1x2yAx3yAx4x5x6uU001x2x3x4x5x6yAyBx7x8x9w1",
   "0x1x2x3x4x5x6x7x8x9w20x1x2x3yAx4x5x6x7x8x9yAw30x1x2yAx3x4x5x6x7x8x9w40x1x2uV001yAyByCyDyEyFyGy",
   "HyIx2yAx3x4x5x6x7yAyBx8x9w10x1yAyByCx2yAyBx3x4x5x6x7x8x9w20yAyByCyDyEyFyGyHyIyJyKyLx1x2x3yAx4x",
   "5x6x7x8yAx9yAw30yAx1yAx2x3yAx4x5x6x7yAx8x9w40yAuW001x2x3yAx4x5x6x7x8x9yAw10yAx1x2x3x4yAx5x6x7y",
   "Ax8yAx9w20x1x2x3x4yAx5uX001x2x3x4yAyBx5x6yAx7x8yAuY001yAx2x3x4x5x6x7x8uZ001x2yAyByCyDx3yAyBx4y",
   "Ax5yAx6x7x8x9w10x1x2x3x4x5yAyByCyDyEyFyGyHyIx6yAyByCyDyEyFyGyHuAA001y2y3y4y5y6y7zAzBy8y9x10y1y",
   "2y3y4y5y6y7y8y9x20y1y2y3y4y5y6y7y8y9x30y1y2,13430,aEGYPTIAN HIEROGLYPH VERTICAL JOINERuHORIZON",
   "TAL JOINERuINSERT AT TOP START&BOTTOM START&TOP END&BOTTOM ENDuOVERLAY MIDDLEuBEGIN SEGMENTuEN",
   "D SEGMENT,14400,aANATOLIAN HIEROGLYPH A001y2y3y4y5y6y7y8y9x10zAy1y2y3y4y5y6y7y8y9x20y1y2y3y4y5",
   "y6zAy7y8y9x30y1y2y3y4y5y6y7y8y9zAx40y1zAy2y3y4y5zAy6zAzBy7y8y9x50y1y2y3y4y5y6y7y8y9x60y1y2y3y4",
   "y5y6zAzBzCy7y8y9x70y1y2y3y4y5y6y7y8y9x80y1y2y3y4y5y6y7y8y9x90y1y2y3y4y5y6y7zAy8zAy9w100zAy1zAy",
   "2zAy3y4zAzBzCy5zAzBy6y7zAzBzCy8y9x10zAzBy1y2y3y4y5zAy6y7y8y9x20y1y2y3y4y5zAy6y7y8y9x30y1y2y3y4",
   "y5zAy6y7y8y9x40y1y2y3y4y5y6y7y8y9x50y1y2y3y4y5y6y7y8y9x60y1y2y3y4y5y6y7y8y9x70y1y2y3y4y5y6y7y8",
   "y9x80y1y2y3y4y5y6y7y8y9x90y1y2y3y4y5y6y7y8y9w200y1y2zAzBy3y4y5y6y7zAy8y9zAx10y1y2y3y4y5zAy6zAy",
   "7y8y9x20y1y2y3y4y5y6y7zAy8y9x30y1y2y3y4y5y6y7y8y9x40y1y2y3y4y5y6y7y8y9x50y1y2y3y4y5y6y7y8y9x60",
   "y1y2y3y4y5y6y7zAy8y9x70y1y2y3y4y5y6y7y8y9x80y1y2y3y4y5y6y7y8y9zAx90y1y2y3y4zAy5y6y7y8y9zAw300y",
   "1y2y3y4y5y6y7y8y9zAx10y1y2y3y4y5y6y7y8y9x20y1y2y3y4y5y6y7y8y9zAx30y1y2AzBzCy3y4y5y6zAzBzCy7y8y",
   "9x40y1y2y3y4y5y6y7y8y9x50y1y2y3y4y5y6y7y8y9zAx60y1y2y3y4zAy5y6y7y8zAy9x70y1zAy2y3y4y5y6y7y8y9x",
   "80y1zAy2y3 RA OR RIzAy4y5y6zAy7y8y9x90y1y2y3 EIGHTy4y5y6y7y8y9w400y1y2y3y4y5y6y7y8y9x10 BEGIN ",
   "LOGOGRAM MARKzA END LOGOGRAM MARKy1y2y3y4y5y6y7y8y9x20y1y2y3y4y5y6y7y8y9x30y1y2y3y4y5y6y7y8y9x",
   "40y1y2y3y4y5y6y7y8y9x50zAy1y2y3y4y5y6y7zAy8y9x60y1y2y3y4y5y6y7y8y9x70y1y2y3y4y5y6y7y8y9x80y1y2",
   "y3y4y5y6y7y8y9x90y1y2y3y4y5y6y7w501y2y3y4y5y6y7y8y9x10y1y2y3y4y5y6y7y8y9x20y1y2y3y4y5y6y7y8y9x",
   "30,16800,aBAMUM LETTER PHASE-A NGKUE MFONvGBIEE FONvPON MFON PIPAEMGBIEE/BAvNAA MFONvSHUENSHUE",
   "TvTITA MFONvNZA MFONvSHINDA PA NJIvPON PA NJI PIPAEMGBIEE;BAvMAEMBGBIEEvTU MAEMBAvNGANGUvMAEMV",
   "EUXxNSUAEwVEUAENGAMvSEUNYAMvNTOQPENvKEUKEUTNDAvNKINDIvSUUvNGKUENZEUMvLAPAQwET KUTvNTAP MFAAvMA",
   "EKEUPvPASHAEvGHEUAERAEvPAMSHAEvMON NGGEUAETvNZUN MEUTvU YUQ NAEvGHEUAEGHEUAEvNTAP NTAAvSISAvMG",
   "BASAwEUNJOMNDEUQwOOMPUQvKAFAvPA LEERAEWAvNDA LEERAEWAvPETvMAEMKPENvNIKAvPUPvTUAEPvLUAEPvSONJAM",
   "vTEUTEUWENvMAENYIvKETvNDAANGGEUAETvKUOQvMOOMEUTvSHUMvLOMMAEvFIRIvROMvKPOQvSOQvMAP PIEETvSHIRAE",
   "vNTAPvSHOQ NSHUT YUMvNYIT MONGKEUAEQvPAARAEvNKAARAEvUNKNOWNvNGGENvMAESIvNJAMvMBANYIvNYETvTEUAE",
   "NvSOTvPAAMvNSHIEEvMAEMvNYIvKAQvNSHAvVEEvLUvNENwAQvMBAQtB NSHUETvTU MAEMGBIEEvSIEEwET TUvLOM NT",
   "EUMvMBA MAELEEvKIEEMvYEURAEvMBAARAEvKAMvPEESHIvYAFU LEERAEWAvLAM NSHUT NYAMvNTIEE SHEUOQwDU NJ",
   "AAvGHEUGHEUAEMvPITvTU NSIEEvSHET NJAQyUAEQTUvMFON TEUAEQwBIT MBAAKETvNYI NTEUMvKEUPUQvGHEUGHEN",
   "vKEUYEUXvLAANAEvPARUMvVEUMvNGKINDI MVOPxGEU MBUvWUAETvSAKEUAEvTAAMvMEUQvNGGUOQ# LARGEvMFIYAQvS",
   "UEvMBEURIwONTIEENvNYAEMAEvPUNGAAMvMEUT NGGEETvFEUXvMBUOQvFEEvKEUAEMvMA NJEUAENA!UQAvLETvNGGAAM",
   "wSENvMAvKIQvNGOMtC NGKUE MAEMBAwZAvYUMvWANGKUOQvNGGENwDEUAEREEwGKAQvGHARAEvMBEEKEETvGBAYIvNYIR",
   " MKPARAQ MEUNwTU MBITvMBEUMvPIRIEENvNDOMBUvMBAA CABBAGE-TREEvKEUSHEUAEPvGHAPvKEUKAQvYU MUOMAEv",
   "NZEUMvMBUEvNSEUAENvMBITvYEUQvKPARAQwAAvSEUXvNDIDAvTAASHAEvNJUEQvTITA YUEvSUAETvNGGUAEN NYAMvVE",
   "UXvNANSANAQvMA KEUAERIvNTAAwGGUONvLAPvMBIRIEENwGBASAQvNTEUNGBAvTEUTEUXvNGGUMvFUEvNDEUTwSAxHAQv",
   "BUNGvVEUAEPENvMBERAEvRUvNJAEMvLAMvTITUAEPvNSUOT NGOMwJEEEEvKETvNGGUvMAESIwBUAEMvLUvKUTvNJAMwGO",
   "MvWUPvNGGUEETwSOMwTENvKUOP NKAARAEvNSUNwDAMvMA NSIEEvYAAvNDAPvSHUEQwETFONvMBIwAEMBAwBANYIvKEUS",
   "EUXvMBEUXvKEUMvMBAA PICKETvYUWOQvNJEUXvMIEEwUAEvSHIQvKEN LAWzFATIGUEvNGAQwAQvLIQvPINwENvTETtD ",
   "MBUOvWAPvNJIvMFONvNJIEEvLIEEvNJEUTwSHEEwGGAAMAEwYAMvWUAENvNGKUNvSHEEvNGKAPvKEUAETMEUNvTEUTvSHE",
   "UAEvNJAPvSUEvKETvYAEMMAEvKUOMvSAPvMFEUTvNDEUXvMALEERIwEUTvSEUAEQvYENvNJEUAEMvKEUOT MBUAEvNGKEU",
   "RIvTUvGHAAvNGKYEEvFEUFEUAETvNDEEvMGBOFUMvLEUAEPvNDONvMONIwGBEUNvPUUTvMGBIEEwFOvLUMvNSIEEPvMBAA",
   "vKWAETvNYETvTEUAENvSOTvYUWOQvKEUMvRAEMvTEEEEvNGKEUAEQvMFEUAEvNSIEETvKEUPvPIPwEUTAEvNYUEvLETvNG",
   "GAAMvMFIEEvNGGWAENvYUOMvPAPvYUOPvNDAMwTEUMvSUAEvKUNvNGGEUXxKIEEvTUOTvMEUNvKUQvNSUMvTEUNvMAENJE",
   "TvNGGAPvLEUMvNGGUOMwSHUTwJUEQvGHEUAEvKUvREN OLDvTAEwOQvNYIvRIIvLEEEEvMEEEEwvSUUvMUvSHIIxEUXvKY",
   "EEvNUvSHUvNTEEvPEEvNIvSHOQvPUQvMVOPvLOQvREN MUCHvTIvNTUUvMBAA SEVENvSAQvFAAtE NDAPvTOONvMBEUMv",
   "LAPvVOMvLOONvPAAvSOMvRAQvNSHUOPwDUNvPUAEvTAMvNGKAvKPEUXvWUOvSEEvNGGEUAETvPAAMvTOOvKUOPvLOMvNSH",
   "IEEwGOPvMAEMvNGKEUXxOQwSHUEvRIMGBAvNJEUXvPEEMvSAAvNGGURAEvMGBAvGHEUXvNGKEUAEMwJAEMLIvMAPvLOOTv",
   "NGGEEEEwDIQvTAEN NTEUMvSETvPUMvNDAA SOFTNESSwGGUAESHAE NYAMvYIEEvGHEUNvTUAEvYEUAEvPOvTUMAEvKEU",
   "AEvSUAENvTEUAEQvVEUAEvWEUXvLAAMvPUvTAAQvGHAAMAEvNGEUREUTvSHEUAEQvMGBENwBEEvNZAQwKOMvGBETvTUMvK",
   "UETvYAPvNYI CLEAVERvYITvMFEUQvNDIAQvPIEEQvYUEQvLEUAEMvFUEvGBEUXvNGKUPvKETvMAEvNGKAAMIvGHETvFAv",
   "NTUMvPEUTvYEUMvNGGEUAEwYI BETWEENwZUQvPOONvMIEEvFUETvNAEvMUAEvGHEUAEvFU IvMVIvPUAQvNGKUMvKUTvP",
   "IETvNTAPvYEUAETvNGGUPvPA PEOPLEvFU CALLwOMvNJEEvAvTOQvOvIvLAQvPA PLURALvTAAxQvNDAA MY HOUSEvSH",
   "IQvYEUXvNGUAEvYUAENwOQ SWIMMINGzCOVERwUQxNvKEUXvPEUXvNJEE EPOCHvPUEvWUEvFEEvVEEvLUvMIvREUXwAEv",
   "NGUAETxAvSHOyQvFU REMEDYvNAvPIvLOQvKOvMENwAxQvTEUvKIvMONvTENvFAQvGHOMtF KAvUvKUvEEvREEvTAEvNYI",
   "vLAvRIIxEEvMEEEEvTAAvNDAAwJAEMvMvSUUwHIIwIwEUXvKYEEwETvNUAExwJUAEvYOQvSHUvYAvNSHAvPEUXvNTEEvWU",
   "EvPEEvRUvNIvREUXvKENvNGKWAENxGAvSHOvPUAEvFOMvWAvLIwOQvKOvMBENvRENvMAwOwBAAvTETvKPAvSAMBAvVUEQ,",
   "16A40,aMRO LETTER TAlNGIlYOlMIMlBAlDAlAlPHIlKHAIlHAOlDAIlCHUlKEAAElOLlMAEMlNINlPAlOOmlROlSHIlT",
   "HEAlEAlWAlElKOlLANnlHAIlRIlTEK,16A60,aMRO DIGIT ZEROkONEkTWOlHREEkFOURlIVEkSIXlEVENkEIGHTkNINE",
   ",16A6E,aMRO DANDAfOUBLE DANDAaTANGSA LETTER OZpCpQpXoAZpCpQpXoVZpCpQpXoEZpCpQpXoIZpCpQpXoUZpCp",
   "QpXoAWZqCqQqXoUIZqCqQqXoFINAL NGoLONG UEXoSHORT UEZuAWXoUECqZqQqXpIUZrCrQrXoMZpCpQpXoKApHAoGAo",
   "NGAoSAoYAoWAoPAoNYAoPHAoBAoMAoNAoHAoLAoHTAoTAoDAoRAoNHAoSHAoCAoTSAoGHAoHTTAoTHAoXAoFAoDHAoCHAo",
   "ZA,16AC0,aTANGSA DIGIT ZEROnONEnTWOoHREEnFOURoIVEnSIXoEVENnEIGHTnNINE,16AD0,aBASSA VAH LETTER ",
   "ENNIrKArSErFArMBErYIErGAHrDHIIrKPAHrJOrHWAHrWArZOrGBUrDOrCErUWUrTOrBArVUrYEINrPArWADDArArOsOrU",
   "rEEsrI,16AF0,aBASSA VAH COMBINING HIGH TONEuLOW TONEuMID TONEuLOW-MID TONEuHIGH-LOW TONEkFULL ",
   "STOP,16B00,aPAHAWH HMONG VOWEL KEEBwVuIBvVuAUBwVuUBvVuEBvVuAIBwVuOOBwVuAWBwVuUABwVuOBvVuIABwVu",
   "ABvVuWBvVuAABwVnCONSONANT VAUxNTSAUxLAUxHAUxNLAUxRAUxNKAUxQHAUxYAUxHLAUxMAUxCHAUxNCHAUxHNAUxPL",
   "HAUxNTHAUyAUxAUxXAUxCAUnMARK CIM TUBwSOwKESxHAVwSUAMwHOMwTAUMnSIGN VOS THOMxSHAB CEEBsCIM CHEE",
   "MsVOS THIABwFEEMsXYEEM NTXIVyRHOyTOVyFAIBsVOS SEEVsMEEJ SUABsVOS NRUAsIB YAMsXAUSsCIM TSOV ROG",
   ",16B50,aPAHAWH HMONG DIGIT ZEROtONEtTWOuHREEtFOURuIVEtSIXuEVENtEIGHTtNINE,16B5B,aPAHAWH HMONG ",
   "NUMBER TENSuHUNDREDSuTEN THOUSANDSuMILLIONSuHUNDRED MILLIONSuTEN BILLIONSvRILLIONS,16B63,aPAHA",
   "WH HMONG SIGN VOS LUBsXYOOsHLIsTHIRD-STAGE HLIsZWJ THAJsHNUBsNQIGsXIABsNTUJsAVsTXHEEJ CEEVsMEE",
   "J TSEEBsTAUsLOSsMUSsCIM HAIS LUS NTOG NTOGwCUAM TSHOOJwTXWV! CHWVwPUB DAWBwNRES TOS,16B7D,aPAH",
   "AWH HMONG CLAN SIGN TSHEEJxYEEGxLISyAUJxXYOOJxKOOxHAWJxMUASxTHOJySABxPHABxKHABxHAMxVAJxFAJxYAJ",
   "xTSWBxKWMxVWJ,16E40,aMEDEFAIDRIN CAPITAL LETTER M#S#V#W#ATIU#Z#KP#P#T#G#F#I#K#A#J#E#B#C#U#YU#L",
   "#Q#HP#NY#X#D#OE#N#R#O#AI#YmSMALL LETTER MzSzVzWzATIUzZzKPzPzTzGzFzIzKzAzJzEzBzCzUzYUzLzQzHPzNY",
   "zXzDzOEzNzRzOzAIzYmDIGIT ZEROsONEsTWOtHREEsFOURtIVEsSIXtEVENsEIGHTsNINEmNUMBER TENtELEVENtTWEL",
   "VEuHIRTEENtFOURTEENuIFTEENtSIXTEENuEVENTEENtEIGHTEENtNINETEENmDIGIT ONE ALTERNATE FORMsTWO ALT",
   "ERNATE FORMtHREE ALTERNATE FORMmCOMMAmFULL STOPmSYMBOL AIVAmEXCLAMATION OH,16F00,aMIAO LETTER ",
   "PAmBAmYI PAmPLAmMAnHAmARCHAIC MAmFAmVAnFAmTAmDAmYI TTAqAmTTAmDDAmNAnHAmYI NNAmARCHAIC NAmNNAoH",
   "AmLAnYAnHAoYAmTLHAmDLHAmTLHYAmDLHYAmKAmGAmYI KAmQAnGAmNGAoHAmARCHAIC NGAmHAmXAmGHAoHAmTSSAmDZZ",
   "AmNYAoHAmTSHAmDZHAmYI TSHApDZHAmREFORMED TSHAmSHAnSAmZHAnSHAmTSAmDZAmYI TSAmSAmZAnSAnZAoSAmARC",
   "HAIC ZZAmZZYAoSYAmWAmAHmHHAmBRImSYImDZYImTEnSEmRTE,16F4F,aMIAO SIGN CONSONANT MODIFIER BARfLET",
   "TER NASALIZATIONfSIGN ASPIRATIONkREFORMED VOICINGtASPIRATIONfVOWEL SIGN ArArHHrNsGqOrOqWOrqErN",
   "sGqOEYqIrAsNtGrOrErIrUrNGqUrAsNtGrUrEIrNGqYrIqAEsEqERRqROUNDED ERRqERqROUNDED ERqAIqEIqAUqOUqN",
   "rGqUOGqYUIqOGrERqVWqIGqEAqIONGqUI,16F8F,aMIAO TONE RIGHTkTOP RIGHTkABOVEkBELOWfLETTER TONE-2r3",
   "r4r5r6r7r8mREFORMED TONE-1!2!4!5!6!8,16FE0,aTANGUT ITERATION MARKaNUSHU ITERATION MARKaOLD CHI",
   "NESE HOOK MARKmITERATION MARKaKHITAN SMALL SCRIPT FILLER,16FF0,aVIETNAMESE ALTERNATE READING M",
   "ARK CA+NHAY,18800,aTANGUT COMPONENT-001t2t3t4t5t6t7t8t9s10t1t2t3t4t5t6t7t8t9s20t1t2t3t4t5t6t7t",
   "8t9s30t1t2t3t4t5t6t7t8t9s40t1t2t3t4t5t6t7t8t9s50t1t2t3t4t5t6t7t8t9s60t1t2t3t4t5t6t7t8t9s70t1t2",
   "t3t4t5t6t7t8t9s80t1t2t3t4t5t6t7t8t9s90t1t2t3t4t5t6t7t8t9r100t1t2t3t4t5t6t7t8t9s10t1t2t3t4t5t6t",
   "7t8t9s20t1t2t3t4t5t6t7t8t9s30t1t2t3t4t5t6t7t8t9s40t1t2t3t4t5t6t7t8t9s50t1t2t3t4t5t6t7t8t9s60t1",
   "t2t3t4t5t6t7t8t9s70t1t2t3t4t5t6t7t8t9s80t1t2t3t4t5t6t7t8t9s90t1t2t3t4t5t6t7t8t9r200t1t2t3t4t5t",
   "6t7t8t9s10t1t2t3t4t5t6t7t8t9s20t1t2t3t4t5t6t7t8t9s30t1t2t3t4t5t6t7t8t9s40t1t2t3t4t5t6t7t8t9s50",
   "t1t2t3t4t5t6t7t8t9s60t1t2t3t4t5t6t7t8t9s70t1t2t3t4t5t6t7t8t9s80t1t2t3t4t5t6t7t8t9s90t1t2t3t4t5",
   "t6t7t8t9r300t1t2t3t4t5t6t7t8t9s10t1t2t3t4t5t6t7t8t9s20t1t2t3t4t5t6t7t8t9s30t1t2t3t4t5t6t7t8t9s",
   "40t1t2t3t4t5t6t7t8t9s50t1t2t3t4t5t6t7t8t9s60t1t2t3t4t5t6t7t8t9s70t1t2t3t4t5t6t7t8t9s80t1t2t3t4",
   "t5t6t7t8t9s90t1t2t3t4t5t6t7t8t9r400t1t2t3t4t5t6t7t8t9s10t1t2t3t4t5t6t7t8t9s20t1t2t3t4t5t6t7t8t",
   "9s30t1t2t3t4t5t6t7t8t9s40t1t2t3t4t5t6t7t8t9s50t1t2t3t4t5t6t7t8t9s60t1t2t3t4t5t6t7t8t9s70t1t2t3",
   "t4t5t6t7t8t9s80t1t2t3t4t5t6t7t8t9s90t1t2t3t4t5t6t7t8t9r500t1t2t3t4t5t6t7t8t9s10t1t2t3t4t5t6t7t",
   "8t9s20t1t2t3t4t5t6t7t8t9s30t1t2t3t4t5t6t7t8t9s40t1t2t3t4t5t6t7t8t9s50t1t2t3t4t5t6t7t8t9s60t1t2",
   "t3t4t5t6t7t8t9s70t1t2t3t4t5t6t7t8t9s80t1t2t3t4t5t6t7t8t9s90t1t2t3t4t5t6t7t8t9r600t1t2t3t4t5t6t",
   "7t8t9s10t1t2t3t4t5t6t7t8t9s20t1t2t3t4t5t6t7t8t9s30t1t2t3t4t5t6t7t8t9s40t1t2t3t4t5t6t7t8t9s50t1",
   "t2t3t4t5t6t7t8t9s60t1t2t3t4t5t6t7t8t9s70t1t2t3t4t5t6t7t8t9s80t1t2t3t4t5t6t7t8t9s90t1t2t3t4t5t6",
   "t7t8t9r700t1t2t3t4t5t6t7t8t9s10t1t2t3t4t5t6t7t8t9s20t1t2t3t4t5t6t7t8t9s30t1t2t3t4t5t6t7t8t9s40",
   "t1t2t3t4t5t6t7t8t9s50t1t2t3t4t5t6t7t8t9s60t1t2t3t4t5t6t7t8,1AFF0,aKATAKANA LETTER MINNAN TONE-",
   "2$3$4$5,1AFF5,aKATAKANA LETTER MINNAN TONE-7$8xNASALIZED TONE-1;2;3;4;5,1AFFD,aKATAKANA LETTER",
   " MINNAN NASALIZED TONE-7;8"]

end LiteralEnum.Text.CharacterName
