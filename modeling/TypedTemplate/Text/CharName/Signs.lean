/-! Names of punctuation marks, symbols and arrows. -/
namespace TypedTemplate.Text.CharName

def signs : List String := [
 "jZ0hE. m2aEM:a. o4aEM:amo-P#-EM:akh-P#-EM:a$X-P#-EM:aFIGURleub:a<!:aHjS:aZ#O WID<:cN%-JO!#cJO!#nN-
 TO-R?ooR?-TO-pIapSaN%-BhfKp5FIGURE lNa.:aEM:auZB,aqBvqbhg:nNqKwhardrEhg-9h2lk-rf-9=mkoT=rdqBhg-9h2l
 k-rf-9=DAGG#ariapoauD:akch8 &AD#ahH=uZELjr$SapSp6nManHsyaP,Ane:nN-TO-oQEMBEDDlBR?-TO-pIaPOP pnI%;nd
 ivlBkb-TO-oQl9RiSaR?-TO-pIaN,iXxAP# ic&oqT. rclXRIMEariapO:arf:bribpO:aC,jorEwBmzwhbw9h3REF#.CleqBu
 e:a!T#ROB)Gal9kdanvjkat7 jkaC,ET !S#ky nMaAST#ISMapS poaFRAnb nkomw8_jDLLasEqBrhoorh ue:aue rh:aTIR
 %I)oYjosoPILCiXoboXtmpobvIakjrpasotKaltE UPakqrpS ;IGNh1rbLYav2nXobSWhr lNaspnvjkaFoguboopEh8 ubat
 b PRIMEanSh8 ubakm=hH=nSh8ooqvmtahhnPasqtSaqdw0o4ao8JO!#aFUNnb APPk6mla!VI$B& jaESbsybkpjZ066nD-TO-
 oQISOLhYaR?-TO-pIaoP hN%GlXOP pnI%;:a!HIBIT SYMMEhhC SWAPPlBACTIVhY=!HIBIT qxhiM h7PlBACTIVhYh3Nml
 ; p2h7PjTNOM!;=vTZ#ObxQIb@2074 ylbkpoqnXbuhbyJbxQNajvqVZ#Ob%EbhHbmobylbkpoqnXbuhbyJjZ090 ptjvqVvjAe
 EeOeXeoMeHeK*3ePeSeTjZ0A0 EURO-seobnP:aCRUZEIRO:aFR.CH FR)C:aLIRA:aicL:aNjSAlXEShP:aRUPEleW%:aNEW h
 6QEL:aD%G:aEURO:aKIP:aTUGRIK:aDRixMA:aG#M) P.NYlXESO:aGU,)I:aAUhN;:aHRYVNIA:aCEDI:aLIVRE TOURNOIS:a
 SPESicO:aT.Gle!DknRUPElejmKiR LIRA:aNORDICmw:aM)AT:aRUB&:aL,I:aBITCO!:aSOM:jZ0D0 tomkH,PO%qRrvmmv
 q pPYbnWhXvnoRqRtGh2kbh2rvR>pPYbtGh2vnh2trqRkhh2.lt>oScoccqTcoS lVnkpWR?oRqR.lt>SCRE.ckWCi2UPW,D t1
 rVbwk pPYbqBwV:b)NUITYqIbqbnvh8bWiS q9qRwR pPYbmmqBr5:bR?yGsmbssjnkboRqjrvrpoWjZ1hEACCOUNTk7aADDhjS
 h1iulpjvJECTavv rUCapv CEL$k2ov kdrXC,Ek7aCADA UNAaEU&R C%htNTaSCRUP&apv FAHR.HEITaqV^ GbrUHamr-&TT
 #=vv=PL)CK C%htNTcnskqPIaqVrUIamr-&TT#=qVrULb^:aL B B,rXvv rUNao5OobSlbikCORD>COPYR?aqVrUPavvh0QaqV
 rURamr-&TT#=vv=PhjCRIPkyiaKEahjP%SEaS#VICEooTE&PH%Eobi1DEmw:aV#$C&avv rUZaOUNCEobOHM:apgnjmr-~rUZaq
 JpLvjlnaKELV!ob)GhNOM:aqVrUBamr-~rUCaEhmMhYDrXqV^ EbrQ:cFalLnjqVrUMb^ OakrrXBET:aoF:aD;ET:avbSOURCE
 arzrUQaFAC$icEobvv ^ PIcGlCbrQ:cPIbN-,Y SUMMmlaqJuA rUGdLarfh3qJuA rUYavv wlDc^:jfIdJaiFP#TY kdaqJt
 ZaP#obAKjkSELSKABaqJ^ FaojnpSAM,IT) SOURCEaVULG, vrn6<dN!<lI<do6cuJckcFIF<ckqFIF<Scmo:ckh:ckc$X<ck
 m $X<SckcE?HcpEE?HSckm:cn6:aFRAnb o5Ain %EaiY) o5;:wpckmc$Xcn6cE?cktmRcE&V.cppcnccudckm:ckcrca^ iY
 ) o5; zSlIdE&V.dppdncdudnh:dkcrcaiY) o5; kcrc C Dckm rcmR:csoudaxQsoCaiY) o5; $X LhYndcnc E,LY:drcc
 ud:aVULG, FRAnb Z#O o6SaqJp2hHcmojZ190 wRaqE:ua:asm:omqLahUpVaty:bmL:an8h2lD:awRvAuah3tmluoRua=tmkq
 ksnFz3wR_kouah3wRthaz3hUkfoR_BASEawRtpuah3wR_mOuah3mkoQluoRc,iXvAasm q5oRaqEoR_TIP ssetnawj_TIP sse
 tnawz_pG smawj_pG ssavn lPm7oSoRatGh3tyoR iummB,awR iuB,ofwz TO:avn myoSoRatGh3kbyGqEesmaUPyGtnessa
 R?yGqEesmakfyGtnessawzofwRaqEoR sskesm:awRofvIbPjSEDoRSz8tmH,PO%oftn H,PO%ua H,PO%ofss:atmoToRvAoms
 EtnhDtmoToRz8y9z5tmpO:ua=tmSjDGG&:ua=qEoR_qBotasmhDtmlNEDoRz8wR iuB,uah3tmuuz8qE uuthd% PEDEhtLpDuZ
 B,grb:coToRe% PEDEhtLua uu FiY W;LatyoR iupGauHh3hUmuuuqm,iX_^qSawj sskeqEoRapEwzSawR_wVuahDmksEwR_
 oT=tnjNmkR?jNtmkz-ksEDoRua=mkrYhi ;LamJ&lGaPxba<#E EXiMSbtVEXiMaq8Sjo!CRElGaNABLAaE&lGk7mW )=^=qy
 S AS MEMB#atVqy=^ qyS=qeiFOFaN-,Y rBbCOrBbSUMMmlanXobnX-OR-kp:ah8 kpalj$% nkaSET nXarptDaRp5po:aqZR
 OOTaCUBlekh<lXROPORky; TOa!F!ITYqmmza:aprnFSPH#li:aljDjTtVljDEasU TOmW=ru)DbORavHanzasPariapO:aC%TO
 UR:aSURmC:aVOLUMletG:bC%TOUR:avn=<#EhiEaBECAUSEaRATIOaiFPORkyah8 nXaEXCj0aGEOMEhhC iFPORkyaHOMO<ETI
 CawDasomnaspLAZY Sa$NE luaWhf< rBmW mnanX:aASYMPTOTliLY remWh3v0LYh2BUTlQ ACTU;LY=NEI<# v0LY NORh3;
 MOST=iQh3;MOST nJ OR=qbmna;L reauL:aGEOMEhhC;LY=DIFF#.CE r3aAPiFixES lpLIMITaGEOMEhhC;LY reav0LY re
 lElpIMhuk7aIMhukekRv0LY reanP nJSanJS nPaR>! reb=CORhjP%DS:aEhmMhYSaEjD)GUL, TOal5 nJSaigTA reare B
 Y DEF!Ikyaprh1BYarhh1remW=iSNTli:mW=hNICTLY uL:asnlEnJ:ayI l9=yI BUTlQ=vBhDMUCH snbvBar3mW uL TObsn
 bvBaNEI<# sn NkRrebyIlEuL:vmh3NEI<# sn NORh2yIlEvBvmlEsnaNEI<# sn NkRvBbvB NkRsnasGasIasGlEreasIh3s
 GlEuL:asIh3tVPk3EDEiiCCEEDapBk7arl:mW A pB:crl:apBwrarlhDNEI<# A pBkeNORh0rlhDpBk7_iQ=rljNMULTISETb
 wHbnzaqZIMhuk7bORIG!;:bIMhuwrbORIG!;jnCAPbCUParWkpbnXbjaESblj$% nkbh8tDbki:brp:bnJSblNas0kpbnXbjaES
 bh8tDqmTjjnN:apVaUP:aiq#kyaMOigSaTRUEahiCjTqbvD oQlLhm&aqBvD oT=tViFVEmW TRUEatVhiCEaNEGAlgqBvD qBo
 QlLhm&asG nvikp9asI=wmk7aqyS AS wmawmwraqyS AS wmh3ORIG!;k7aIMhu:aMULjaAPaH#MITknC%JUGhY MAhhXa!T#C
 ;hYaXORaN)DaNORqmmz_,CbrVaN-,Y ru)DcORbvHbnzaqTtDah8:al5:alj$% jajTBOWjkomNORM; FAmS m7pn rBasEkb=r
 Ysomn nJSalKY ruORc)DaqBpBbrlbvHbnzaPITCHhiKanJmjsU TOasnsvvm=V#Y MUCH sncvBasn re OR:vm relEsna+4d
 vBdsGdsIatVPk3EDElEnJiiCCEnjiQ qZIMhuwrcORIG!;hDqZIMhukekRiQh2ORIG!;jNsn BUTlQ uL:vmhDsGhDsIhDiQ wm
 k7atVqy AS wmmW wmwratVqy AS wmlEnJasqELjr$SaMIDnHtq:ahUoQsF:akfh3E&lGk7_mmxCdvD jL.Dk7=^ E&lG+9aE&
 lGk7wSdl9B,a^hDE&lGk7_s7dkqxCSaqyS_mmxCcvD jL.Dk7=^+9aqyS_l9B,a^h3ZlQp6BAG MEMB#hTPaDIAMET#obE&ChhC
 oRakGSEaUPtxapVaiFJECTihaP#SPECTihaWAVY kdomCEILlBqLomFLOORaqLaou oQCROPbpIalPqLbpIasoiQobqZrOa,CaS
 EGlGaSEmSaTE&PHkck3ORD#as9 tYaVIEWDATA ocaoLke!T#ESTobqJiQ:aWATCHakGRGLiqalPmkpGbqLaounD:bqLalPn3sP
 aou=FiXNaSicEaUPtx r3 kquZB,SaOPky kWa#AiHiulpR?aX ! AikCTmz j3akWoEawBmzroaw9=#AiHiulpkbaB.Z.E kia
 CYL!DRICITYa;L ,lb-iFFI&aSYMMETRYaTOT; RUNhvaDIM.$% ORIG!aC%liiaP#aSLOPEaCOUNT#BOREaCOUNT#$NKay7I-B
 EirSjDSH m2dm2 nJeljDEeqTeJOTeoSdoS hm&eJOTdnk B,dlVnk:dm2 nkelVnkesnevBdtmV)EdvIdm2 wRevIdoS lVnkd
 muTjj s7digTA hm&dm2 muC,ETeighkmuTjj JOTdqE V)Edm2 qEoR",
 "jZ351 y7rM l9B,dig hm&dm2 hUC,ETeigdrM JOTdsm V)Edm2 wjdQUOTE s7digTllqT:dJOT:doS:dhUiUE JOTdQUOT
 E m2doS l5dm2 nPdrM szdig:dl5:dJOT:doS:dmuiUE hm&dkbh9mn szdvB:dn2 B,dig mndZILDEdhm& mndtK s7dm2l
 Q nJerhdmuC,ET mndUPh9lndkMdnEdna s7dEpM:dln:dnE:dnamW oBoooQmz_sm q5oRaiUULD#h1myj3akFLrXvq_qCh8a!
 S#kyrXC%T!UOUS nvkd:aDISC%T!UOUS=EMho$S:akLs9:qMoc_ov vqa.T#rXsdih kW:aHELM:arWuZB,_iQCHbrV kfaBROK
 .qS_o9lDoRaUNDOrXM%OhtB&:aHYST#E$S:akz-CIRCUIT-hvPUT H-mb:bL-mblXiqih-Pjx-kf-hvPUTlXiqih-Pjx-UP-hvP
 UT:apn CURR.TqInd hHamdW,E-FUNnbrXy7m2aDECIM; sy kWrXPREVIOUSiAGEaNjGlXR!T SCRE.rXC&,=mkui oakgcjG.
 $%cogkgqmui nT:cjG.$%cogkgomw8 oapGdjG.$%dogpGqmw8 nT:djG.$%dogpGomvs oakgdqCoOdogkgavs jG.$%qmvs o
 akgdqCoOdogkgasP jG.$%auZkd:aoamkkRvQvs qlboQkRogkbh3SUMMp6j2boualPw8aouh9nslPw8aRADliqI ouomsqj3 k
 darduZSC) kd-1ckd-3ckd-7ckd-9aD.TiMRYqI olvulPR?fou:pYoSdtAtqh9UP+4drb_rVdtAtqh9UP+4dvuludtAtqqkdUP
 +4dtAtqdUPh9vulPkbfou:aqZFOOTaRElLrXEJECT:avq jG.$%aMEhhC; nfbmmnsnWbp0nslTbmmnskqnWSbkqnWSoflTdJO!
 EDbhhSEMEbTEi1SEMEbP.TASEMEaE,< GnUaFUSEalPuiaou:alPvsaou=lPwF:aouh3oVi1PEZIUMaB.Z.E ki_oSarnNj0aFL
 ATNj0aAC CURR.TaE&ChhC; vHaDECIM; EXP%.TrXoXw9 qBrVbkbt0h2UPt0h2vwh2w9 qBrV_vDbkbt0+5bw9 rV_oT=;,
 M ClraSj2WATCHaja# ClrakGRGLiq_Fhg>S)DqPqdwBrVcw9:cUPt0:cvw:aqBvDqPocnpSj2boSnpk3ORDaPOW#qIb%-OFF:b
 %:bS&EP:aOBS#V# j4:aojnpNjxcl5Tkeks!GeTjGc.DhWvhc.jDRYcv8ipLLclVo4cuZTABUp9cnHFEEDcsqTABUp9chiM FEE
 DcC,RIhuiklLhCIFT hvd!hZTA L!K ESCAPEcws%EehHemoekhcs4 v8cSYNCHR%OUS ID&cqevh Blrcq6cqep3iiBhmTUTEc
 ESCAPEcFI& sycGROUP:i6CORD:ckYT:co4cigETEaBL)KrXmyj3aojnpNEWkdcigETEnd hHiiBhmTUTE=@2440 OCR kgbCHj
 SbhiKbpgl6bkFT BUCK&bBOW jkbBR)CH B)K iSNTIFICmlbAkZNTkeoBblNbCUSTOM# ACCOUNT pkbqBlVnkjZ460 rWp2zR
 bqYzrcp4awPp2zRbqYzrcp4ap2kctEbhHh2moh2khh2kmh2$Xh2n6h2E?h2kt=u3h2E&V.h2pph2<IRlSh2khlSh2FIFlSh2qrh
 2n6lSh2E?E.h2ktlSh2p4=wPxQlUarWxplUcvjlUbp2Z#Oas4 rWqYE&V.dppd<IRlSdkhlSdFIFlSdqrdn6lSdE?E.dktlSdp4
 aqBrWp2zScu3as4qSDunaj3 DRAW!GS oltqcmq:colrbcmq:colqblN tqwtqblN rbwttb lN tqwttb lN rbwttAR?cmutv
 oQmqdx4L?cohtAR?coltAkbcmutvmkmqdu0mkL?cohtAkbcolr8R?chUtvoQmqdx4L?cohr8R?colr8kbchUtvmkmqdu0mkL?co
 hr8kbcolvuR?csqtvoQmqchUx4muL?cmux4UP:csqu0qLcmutvoQhUmqchUtvoQpVcohvuR?colvukbcsqtvmkmqchUu0mkmuL?
 cmuu0mkUP:csqu0pIcmutvmkhUmqchUtvmkpVcohvukbcoltAtqcmkx4muL?coQu0r1mutvuZmqdu0uZL?coQtvmkmumqcmktvR
 ?h0ohtAtqcolUPh0mkx4hUL?coQu0r1hUtvuZmqdu0uZL?coQtvmkhUmqcmktvR?h0ohr8tqcolrbh0mkx4sqL?coQu0r1sqtvu
 ZmqchUu0muuZL?cmuu0UPh0sqoh)Dh0mkhUx4pVcoQhUu0r1mkmux4UP:coQmuu0r1mutvhUuZmqchUtvkfh0oQtvmkrb:cmktv
 R?h0ohvutqcolqBlN:wtqBlN rbcmqhcqBtqdrbckfzgtAR?ckfzctAkbcUPzgr8R?cUPzcr8kbcrbzgvuR?crbzcvukbckfzot
 AtqcUPzor8tqcrbzovutqcol,C tAR?gkbeUP+2gR?dt3oawokbfs6ogR?emtdkbdUPdR?dkfcohkbdUPdR?dkfcolkbmjohR?d
 r8ohkfcohkbmjolR?dr8olkfaoan3BlraogkcE?H:cqQ:bmouEbl1:bkmuEbwC:bn6uEaFjx:omn6uEbwC:bkmuEbl1:bmouEbk
 cqQ:cE?H:qml1:aollMEap3:aD,K:aoax7ardm2R)T ogkbcR?boakbd)D ogkbmjogR?f:eoaR?mjogkbg)D ogR?c:d)D ogk
 bg)D ogR?qPocamx:cn5nUh1pGScqy>oX^ ocaoc_uZFILLcrb:cOR<OG%; mtHATCH:coas6ogqLdwopIct3mtHATCH:qP^ oc
 wWk3Tmzamx:qPrb:wWsUnmamx:qPUPt0 rVwWUPt0 y1w9:wWw9 y1w9 nM#wWvw rVwWvw y1kbt0:wWwBy1wBnM#wWqTamx:c
 qy>oX^ qTamZj4arOqMoSah8TnFoS_sqFILLaBjxSj4qPoSaoSxucR?h0nBh0nTh9oQm2R)T:c;L BUT oakb=mkn3oXoSard!V
 #iHpoboVoSaoal1h3nBhDoamkm2R)T CIRoA ,CbrdnBjnkbh3oan3oSanB=oXvQrVcpIbnTh0qLqMpoaocxucR?h0oamksFh0o
 grdoVoc_sqBISECT>kdbUPt0 rVsvaUPt0 rVxudrYmsqSqMoc_oamkm2R)TdnBhWqLdnTh2oS_oapIdnBhWqLdnT=oamkrVbqL
 aogpIqMqdocamr=oVqd^:amrh3vQrVqPSUN_RAYSaCLOUDaslaSNOWM)akLjooXl5amx:aL?NlB<nvSinMaSUNaASC.D>NODEaD
 ESC.Dp5C%JUNnbaOPs9qPTE&q3mx:aB;LOT j3cn5oBdXaS;TkEasl_RA! DROPSaHOT BEV#huqMiUGI oOamr=h7MROCKasor
 zFLOR; nK poqPmkt1nubrYoVkbh2UPh2rvkf=SKjxmjmtB%jTCAUkyobRADIOACTih:aBIOHAZ,D:aCADUCEk2)KHaOR<ODO
 X mtai7 kMamtkeLORRA!EcJ#US;EMal5mjsWaF,$rXADI h7KTIaHAMM#mj$CK&aPEACErXY! Y)GahhiCMnpHEAV.cLAKEcFk
 Ec<nvcW!DcoCcsScE,<aWm4keDH,MAqMFiXN>mCbSicp5mr=oVSUN_RAYSaoP qQ MO%aLAST=M#CURYaFEM;EobE,<aM;EobJU
 PIlsSAlLaUR)k2NEPTUNEaPLUTOa,IjTTAURk2GEM!IaC)C#a&OaVIRGOaLIBRAaSCORPIk2SAGITT,Ik2CAPRICjWaAQU,Ik2P
 ISCjToVzNqPzNbSPADE SUITqMnK:bqT:qPCLUB:qMSPADleoXnK:bqT:qMCLUB:aHOT SPkiSaqQlQEaE?H:aBEAMh1E?HlQES
 bqr<:aMU$C FLAToqNAjm;:bh7RP:alD rTmtamL=kYV#S;ikCYCL>ojak3YCL!GvPmb-1 PLAhmCSdmb-2:dmb-3:dmb-4:dmb
 -5:dmb-6:dmb-7:dG.#hRMhYRI;SqPkYV#S;ikCYCL>ojak3YC&DiAP#lX,TI;LY-k3YC&D=P#M).TiAP#obWm4CHjSrXDIE mC
 hJ5qMoSsv R?drgqPoS_oVh8 R?dkqoVh8SaM%nmnpY)GcY!aDIiCMnpGhfT# Y)Gc&SS# Y!dY)GcGhfT# Y!qMFjHarrHAMM#
 mjPICKa)itRamth1SWORDSahtFFkeAESCULAPIk2SC;jT;EMBICaFnBaGE,ahtFFkeH#MjTATOMrXF&UR-DE-LISahvkdD oVl5
 apEkdS C%V#G>R?dkbaW,N!Gobn1VOLThu:aoTD FEM;E:bM;le!T#lrh1FEM;Elm=M;EmjFEM;E:bn5ot:d)D M;EmjFEM;les
 qM;EvA:atqhDqdoVoSbmr:b^ mx:aM,RIhurXDIVORCleUNM,RIh1P,TN#hTP:aCOFF!aFUN#; URNaNEUlsC#jTP;LASaJUNOa
 VEhtai7R%qPMO% LILI<aSjGI&am7SjGI&ajDNCUNXaSESjDm2RhYaSOCC# nxBASEnxs0kWqMDRAUGHTS M)cKlBoXDRAUGHT
 S M)cKlBSNOWM)nihv SNOWaSUN BEH!D CLOUDaRA!qPSNOWM)a<nv CLOUDmjRA!aqJoViUGI oObmr=oVqT ! ocaswL)jTD
 ISAB&D C,aOPHIUCHk2PICKaC, SLIDlBHELMET_oVmtarWswL)jTCHA!SaNO .TRYat2 %E-kInD kI i1FFICqPhH-kI+3",
 "jZ6D7 oVhH-kInD kI i1FFICqPmkL)E M#GEamxh3DRih ShgobohoVvw rVomqU.TRYas0S;TkEaF;L>t3! oVoS ! oXocq
 PTRUCKahjhhClgmk.TRYhJ1aAhN%OMlivPUR)k2ohoSvAmjrgoWaP.TAiCMaR?-klh1!T#LACnFkb-klnjpgnFoXmt % hTELDa
 hTNiuSHR!EaCHURCHaCAST&aHiMORhR$TEaGE,nihv HUBbn5kl&SaMAPvPL?kGSEasSasl % GnUaFOUNTA!aFjH ! HO&aF#R
 YaSAILBOATaqZnSpGSaSKI#aICE SKhYapU_nxT.Tta B)KrXksSnOnGY,D:aFUEL PUMPaChU% oXocqMFjH_uZqCoXhNIPEqP
 SAFETY SCISSORSaoaBLADlerrogBLADlemx:bohoBooTE&PHkcLOCmlobTAPE DRihajSPL)Easaar4FiMbklaVImSY:aWRITp
 5vQP.CILa:aoaqLqMNIBarroBoomq=wH Xamq=B;LOT:amq=hvkdD pLmtamq=myov:amqh3LAT!:atemx=hvkdD=M;TESlel5k
 eDAVIDanStjSPOKh1rpbB;LO%-SPOKnFmqh3nSCLUB-SPOKnFoXkht6l5amxh3SP,K&SahNj0 hvkdD oVl5aoSD=myov rroXo
 v mx:ahvkdD rrmqh3v1temx:aohrpamyov:aE? SPOKl6bnMh1oXl5cv1$Xt6rrE?t6k3TIkd,=mqjNpp nMnjqrt6rpatjSPO
 KnFmyov=mq=$X PhPL&D mrmjoVFLORETTEarrmx:aE? PhPL&D hvkdD rrrWmyov E?t6l5aohtjSPOKh1P!Wm4 rpaSNOWFL
 AKEaT? hhFOLIhY:aohhKVR%:aSP,K&amq:aB;LO%-SPOKh1rpaE? tjSPOKh1iFPEL&R:amqhDmtooteoVoSas4 s0mtoovQDR
 OP-teoVocanThDvQlMOWnjnThDoXrhmw sCamxhXue=oXqT nX oVXaohuemwrXolvDap3=mqh2rEqJn2wh sCcjnqBlLEDiVjn
 hgqKiVoThDnZD STEMiARAnemv:aohuemw:bnKhXoXnKarzohoXnK poaFLOR; nKarzFLOR; nK poaqdmkui sCbrvFLiv.h1
 r1rvwBmzro:bw9h3ohwBmzwh:bw9jnwBmzro:bw9h3olmkwFh2sEqdmklKYh2rdD!GBjLs4 rWp2zTdu3brWuA p2zTdu3bs4 r
 WuA p2%EyrE?fkteu3aohWiS-ksh1wzbkpoqnX:blj$%:buHoRbvIbtz:aDRAFT>nM vIaohnU-TIPPnjrV-ksnjmqh3lNEDh3m
 qhDmr=mo-D j2-L?h1wzksbou-L?njmr=ohoXnZD smmjwzdqEh3SQUjLmr=ohC%CAVE-nMEDh3R?-lMh1mx=kb-lMEDh3lV-TI
 LlglMOWEDh3FR%T-TILTEDhDohogR?-lMOWEDhXnThDiQhKD nBhDlKY mOmWhKD oaR?-teoVwzarWmqh3mx-FEA<#njmr-FEA
 <#h1uH:bvIbtz:aohmr-FEA<#h1n8h0vIctz:atjB,Bh1vIaohtjh7NKnjWEDGE-konjmqh3kz-hvkdD=qBlKY mOapEDIM.$%
 ; mzqMrV qy>^ oVrVaP#P.DIoAamypBbrlomSsbBAG igIMIlsrdORsv !l4awk Pk3ED>pBarl Pk3ED>r5avD_xCaw0RIS>s
 Fammlj$%aw0F;L>sFas0ru)DcORqMqT_ovDlza)DqkaE&lGkekz>qEavQpGsvaoakbh3mkhv# JO!arYFjx=ms rMbpVnNmjoQq
 BlLhm&dTjjbMULjaAPammoQTjjbpIarM_oSoWarO ljDh1BY uZRU&qMC%CAVE-l4D qTdn5tmTICKevIboc_ss:dvIaw0mkoVw
 8bR?hXmkmz:brvmktQR?hXmkoVwF:bR?jnmkFLiv.h1uibrYqE tboRasm=vn GAPPh1oS:atGh3R?oR_rWkpammwRbvIpWqLbt
 mribtnh2mkrvwRthbtnhXtmoThXtniVSjDGG&oRaBRAIL&iATT#N BL)Kqw*1s2os3qw3os23s23os4qw4os24s24os34qw34os
 234s234os5qw5os25s25os35qw35os235s235os45qw45os245s245oskPqwkPos2kPs2kPos6qw6os26s26os36qw36os236s2
 36os46qw46os246s246oskVqwkVos2kVs2kVos56qw56os256s256oskXqwkXos2kXs2kXoskTqwkTos2kTs2kTosm8qwm8os2m
 8s2m8osrys3tBqq3ry3s33tB3qq4ry4s34tB4qq34ry34s334tB34qq5ry5s35tB5qq35ry35s335tB35qq45ry45s345tB45qq
 kPrykPs3kPtBkPqq6ry6s36tB6qq36ry36s336tB36qq46ry46s346tB46qqkVrykVs3kVtBkVqq56ry56s356tB56qqkXrykXs
 3kXtBkXqqkTrykTs3kTtBkTqqm8rym8s3m8tBm8qqrarxt4qN3ra3rx3t43qN4ra4rx4t44qN34ra34rx34t434qN5ra5rx5t45
 qN35ra35rx35t435qN45ra45rx45t445qNkPrakPrxkPt4kPqN6ra6rx6t46qN36ra36rx36t436qN46ra46rx46t446qNkVrak
 VrxkVt4kVqN56ra56rx56t456qNkXrakXrxkXt4kXqNkTrakTrxkTt4kTqNm8ram8rxm8t4m8qN7ratCu17qN37ra3tC3u137qN
 47ra4tC4u147qN347ra34tC34u1347qN57ra5tC5u157qN357ra35tC35u1357qN457ra45tC45u1457qNkP7rakPtCkPu1kP7q
 N67ra6tC6u167qN367ra36tC36u1367qN467ra46tC46u1467qNkV7rakVtCkVu1kV7qN567ra56tC56u1567qNkX7rakXtCkXu
 1kX7qNkT7rakTtCkTu1kT7qNm87ram8tCm8u1m878ua x5_wVeoT=tmoToRni=tnjNmkR?jNtn x5thatmoTh3tnhDwj_xCaqEj
 npOoRasm=tmqBlN:uah3tmpO=tnhXhH-ksEDhX,iX_qvSTEMaqEoR iuB,asmh3wz_ko_wVftQx5_kopDwVgoT=wR-koua:atmr
 iua=wR iuoXqTuahDwRthh3tn+6atymjuHoRbmLmjn8 lD:blDoRtpbmLh3n8jnlDh3tyoRmjtzoRbmLoRmjn8=uHoRmjn8 lD:
 blDoRmjo9=RIS>t3swF;L>sFaF;L>t3swRISp5uHoR swtzoRatzoR swn8=F;L>t3swo9=RIS>t3swn8=tzoR swty:blDoR s
 wtz:alux1pnLY R?a,iX t1tn <. CURV>qEfsmcsm <. CURV>ssftnaR?-l4 ,C tGoRnN-l4 ,C vn:aj2h3ouh3lP,C tGo
 R_nXcvnoR_kpavQm7CIRoA tGoRpWm7CIRoA vn:avn qUoS:atGh3wzqDp0ss:awRqDp0vIap0wzqDss:awz_kpoiasshDwztT
 XomR?oRtT^qSaqE x5 FiY=mko3hUoQo3muH,PO%cmuoQo3UP:ahUo3oQmuo3pIcmkmuo3qLomo3hUoQo3UP:ahUo3oQmuo3qLo
 mo3muoQo3pVahUo3mkmuo3pInNyGhUiuB,ua+6aUPyGrYsm+6nNyGkf=tn+6aUPyGkb=sm+6nNyGhUFiY:ua+6aUPyGrYsm+6nN
 yGkf=tn+6aUPyGkb=sm+6nNyGhUnonDyGkfaUPzAUPyGR?aR?yGUPqDR?yGkfakfzAkfyGR?nNyGUPqDR?yGUPekfqDR?yGkfaR
 ?yGhUnonDyGUPemunonDyGkfnNyGUPqDmmlNemun0=R?yGhUnohWmun0=UPzAkfyGR?akfzAqEhDoQoToR_nUh1ksauhqDwzawD
 h3wRqDwDua+4dwnasnqDwRawRtTsnvmqDwzapBh3wRtTpBarlqDwRommZ koarYUP=kf=qbvD igIMIlsZlQp6SPhbmb nPomoV
 vsardmkoVuiarYZlQp6mkIMhurocR?h0mkB!DplrYmkw8_s7",
 "jZ98C oQw8_s7omw8_TICK ! lPpGqmw8_TICK ! ou:nN+7qmw8_TICK ! j2:ommzrosvasEmk,C snroqm,C vB:aqBkbhX
 oQ,C sn:omoXwF:asEqvF.CEasqq5 kdaprh1mz kz>kbqmmz lf)T_ocaprh1oQmzsvamz_S !l4an9 mzaSPH#li mz kz>kb
 dUPaqJmzarf:amz_s7arfh3shmz kz>UPdkfaprh1mz_my,M .D>!x1r8R?g!x1r8kbg!x1tAR?g!x1tAkbg!x1R?mjUPg!x1kb
 +2g!x1R?mjkfg!x1kb=soq8Sjoq8SET_l9B,d^qSoWdR?oR:dkb=oS_uZB,arWrb:bsUbwkbP#P.DIoAaoS ljDh1BY uZB,mjl
 Pn3ljDh1BY vDbn5SUP#IMPOSh1XarWvn-rzlj$%obUPoRtToSarWoVpob:bsnbvBaoS_^qS iulpR?ckqxCSh3s0RIS>t3nkbF
 ;L!Gh2rpb^qSbocakqJO!h1ocSarVwScs7aS ! rVarV_S#IFS jLouqmrVqDmkrVomrV BEl4 vDavD BEl4 oQrVaBOWjkxuc
 rYoXBOWjkajaESxucrYoVkGRGLiqarrmkWIGGLY F.CEarYmkoT=rd!mJ&TE !F!ITYajk l9:a!F!ITY NEGhYD_vDaoT-.Dh1
 MULjaAPaoc_C%TOUmNhvkda!ChfSES ASaiZFF& rBauhmjrtsUpDmnoWaiSNTli TOmjrtsUaG&ICH l5Ka<#MODYNAMICav
 w rVxudrYoXqT_kfoRbrOqMoS_kfoRamrhD#ROR-B,mNoVocbmr:boVqTbmr:boVoSbrrRU&-igAYEDawktDar5_l9B,awk_xCa
 BIG r5bREV#SleqBkpapO:awBnZD mzroaw9h3T!YaM!YaN-,YqSDlztDckp:cjaES:bnztDsvekpbqZvHtDcnz:akqru)D:cOR
 :aN-,Y jaES:aMODULO kqSUMaSUMMml_sPatb sPtDaF!ITEiART sPasP_qBotbAV#hu_nkaCIRCUp9 FUNnbavn !TEiCkya
 nH!TEiCky_k3T)GUL,iA< ,lbjw&dm7CIRoAhciQ !CLUD><lesP ,lb A nMtDaQUhYRNI% sP:asP_wRtpcpZ$GNcvHcnzcl9
 B,cs7aJO!amsnD rVtDaZlQp6ShKMA kLs9dPIP!GdiFJEnbakpmv_^qSoWdxD:dmn:dsudmn:djvqVhHdoXrVanXmv_n2oWdsu
 dF;L>h8SdRISp5kpoY!nD n3oSdrYVEmSlEmt rBawHmvwSds7am7pn rB_ou ltEDaSMhB rBawHoY!nD n3oSdrYrWwHmv_xD
 awHoY! qBoSarWlj$%obkpoY! rVanXh3wHh3!T#IkRrBaR?kl=ZlQp6REp9; kLs9aAM;GAMp6kRCOrBavHsvanz_nXmvcl9B,
 avHh0ru)Danz_ruORbno vHavHqDnzanzqDB,qDvHavHqDB,qDnzanz BEl4mjJO!EDqkavH BEl4mjJO!ED_vHaqUnz_S#IFSb
 vH=qBqZvHcnzaqUnz_S#IFSmjSMhB rBaru)DwSbORh3qBru)DcORakq!T#SECT>ru)DdORaSLOP>ms:c)DarukRpPPP>LOGli:
 b)D_qCSTEMbORhX)D_uZlNbORhX)D_qBl9B,ds7dria^ VEEqkaruOR_qBl9B,es7aZlQp6DOMA! )TkEhNInbcR)Gleuh_suai
 SNTliwSaqbuZB,_qBwVepO=wDwSdRIS>h8Sa$ic, nX $ic,aC%GRU.TwSanJS_rpawn_xDav0LY nJlEreauhqDkpobkpmvqDn
 JS:auhqDwDaqBnP nJakqC%SECUTih uhSamoh3uh_rgoWmjwIauL_tSoWasn_oS !l4ayI_rhmwoWvmhDsnlErtrevmhDsnlEr
 tresv !l4vm+7asnlErtrewSvm+7asnlErtrewS R?vmlErtrewSnDasnlEv0vm=snlmqK-nHiQ revmjNsnmjiQ v0ayIqDoT-
 nHnJqDvBvmqDoT-nHnJqDsnasnqD$ic,lEnJvmhDsnqD$ic,qDvBvmqD$ic,qDsnasnqDvBqDoT-nHnJvmqDsnh3snqDrtnJqDv
 BqDSL)TnFvBqDrtnJqDsnh3rtrelEsnevBesnsv !l4evBh3oT-nHrelEsnevBbrtrelEsnfvBa$ic,lEsncvBbno snqDuhcvB
 h3qBNESlgsncvBcsn_s7vm pPPP>snbBEl4:asn qUBY nZayI qUBY nZqDrtnJvm+6a^# <)amsR:a^# <)lEreamsRhDuh_B
 UMPYoWasGoWqK-nHuhasIhDsGoWqK-nHiQ reasIjNsGqDuhasIh3sGqDiQ reasIhDsGqD;MOST=sIhDsGqDiQh3sIjNqBsGbs
 IapBsvarl=pB_kpoYn0arlhDpB_wH=rlhDpBwrwSarl+7apBk7qDuharlhDpBk7qDwDarlhDpBk7qDwnarljNpBkenolQ=rljNq
 Zmkmyj3tDbrdqUpBbrlbpBlErebrlh3pBqDrlarlqDpBapB=rlqDrlbBEl4 pBc)D JO!h1BY lNqkaE&lGkekz>smaPITCHhiK
 _TEE j2ai1NSV#S; vHahiKlBN%hiKlBp0mkTjjbpVbUPlX#P.DIoA_SavD qboQlLhm&aqBvDnD:avD oT=oTjNmmlN FiYn
 D MEMB#keqBrbap0muTjj_l9B,brM_s7dno p0muTjjatQUP:botlQobrfhDtVljDE_soNEGp6nkavq_oSvWamuTjjh3sU_xCcw
 DaqbvD B!,Yikp9dn5xCbnPtDbNESlgsncvBaoT-nHrtsnlErecvBh3qbr5 B!,Yikp9ams qbvDtDaqBr5:qMvDaN-,Yh3tz u
 ublD=uHh2lD=mkrYtmrrqE=sm=tzh2lD=uHh2lD=y9wz_TIP smeqEawR_TIP smeqEaoc_lPn3mrcouh0oaoQsFh0ogkbh3qT_
 r1R?h0j2h0ou=qvocqPms:wWV#Y y1P.TAG%amx:bHEXAG%arrtq=oXmsqSbqdqTwWqdrOwW^ qTcrOwWuZELjrSEwWrb:amx=k
 boR_^qSapEwRSnNoR_rWkpammtmSjDGG&oRatmx5_wVeoTh9FiY B,cqblNoRb,iX_qvSTEMdko_wVftQx5_kopDwVgtQ,iXtTX
 alux1pnLYnDauhqDwRaREV#iHwDh3wRqDREV#iHwnawztTvBdrlatmtboRua=REV#iHwDqDvIawzqDREV#iHwnawDqDwRawRqDw
 ndREV#iHwDuajNsm x8q5oRap0rto9:blVrtn8:qMqdl5qP^:wWw9 P.TAG%amx=ohmsqSbOV;_OV; !l4boS_oS:cbrWS;TkEa
 rto9oRtph1ksalVrtn8oRtph1koarto9oR_tq:alVrtn8hDlxx1sm <. tzanW+7nNyaz8y9z5tmx8lNnFz3tG x8myoS:avnhD
 kbya iuB,az4@2B76 tyjnmLhDn8+5blDhDkbya_qBxCaqE+6ua+6asm+6auZTAB kWarb=kbyaofR?yaaUPya sskesm=R?yao
 fss=kfya sskeqE=tmx8PjSEDoRSaz3tmoXrWuuaz4vn x8oQU-h7Pl6couh0r1j2=RElLnDbR?aNEWnHkbbR?anSpGoRS CIRC
 L>vnua mroRjZB97vPmb A E&CTR%ICSamo-D j2-L?h1tmEjDLhYR;txbR?-L?h1qEh2j2-L?h1tnh2kb-L?h1sm=oXssh2qEh
 2tnh2sm=kfya_mmTIP ssgtnaUPya_mmTIP ssgtnnNya_mmTIP qEua+6nNya_mmTIP smua+6",
 "jZBA8 oXnZD smmjwRevIcqEmjss:evIcssmjqE:ctnhcssmjsm:ctnh3RIBB%oR mukbdR?chUkbdR?cmkhsqLcmkkfcqLaq
 E uuth_uZB,aUPtx ! AikCTmz j3apPPP>oVocSc)D mr:b=B;LOT j3_olXaoSD:bBjF:qPqZovDbqT:aqJoXP.TAG%auZoXO
 CTAG%ah2qdUPt0 rV ovDcvwh0kbt0h0w9=NEPTUNEnd hHalPn3oXoSaouh3olkht6oXCUSPaROThYDjNoVnSnMnFROThYDhDq
 Zs9 tYaUNC#TA!TYobGROUPooPLUTOnd hHcmockhckmai1NSPLUTOaiFS#P!AaAhNAEAaHYGIEAaPHOLk2Nj0k2oVMO% SE&NA
 qPqT % mtaTRUE olMO% ,TAaCUPIDOaHADjTZEk2KR%OSaAPOLL%aADMETOSaVULC)k2POSEID%omn3oXl5ardl5xucrYtmx5_
 rVtxSayxa#ISnd %EchHaSEDNAaRUS$) AhNOruoj VIG!TI&dNOVI&djDNTI&dB!OVI&dS.TAG%dTREDECI&auh_!F!ITYoiak
 YlgojaSEP,ATnFoTDlXiqnFsooQmzaHELLSCHREIB#iAUiHoj"]

/-- Further names of characters that also have none or another one. -/
def aliases : List String := [
 "a@0 NULa@0 NjxaSOHhA l5TkekslOTjGjZ STXaqeTjGa@3 ETXaqevha@4 EOTa.Qa@5 .jDRYajja@6 v8a;#Ta@7 kFalV
 o4a@8 BSat7iaBUp9a@9 tq:a@9 HTa@9iaBaqekdkO EOLkO LFkO nHFEEDkO NEW kdkO NLanHTABUp9a@B rb:a@B VTaF
 Fa@Cnd FEEDaC,RIhuiklLa@D CRalr!G-hTFT %Ea@E hTFT hva@E SOalr!G-hTFT Z#Oa@F hTFT !a@F $aDATA L!K ES
 CAPEl7 D&aDC1l3 ws%EaDC2hA2 wshHaDC3hA3 wsmoaDC4hA4 wskhaNAKhA5 s4 v8aSYNhA6 SYNCHR%OUS ID&aqevh Bl
 rhA7 ETBaC)hA8 q6aqep3hA9 EOMajvhAA jvhmTUTEaESChAB ESCAPEaFI& syhAC FShAC vbsy khaGROhUsyhAD GShA
 D vbsy mochHhAEikCORD syhAE RSavbsy %Ekw kYT sykw k2SPa@7F iga@7F igETEaPADa@jRPADD>t7an1OCTET Phjj
 o@81 HOPaBPHa@82 BhfK P#MITlgH#EaNBHa@83 NO BhfK H#Ea!Da@84 nuaNELa@85 NjG kdaSSAa@86 l5TkeSE&Clg,E
 Aa.Dh3@87 ESAat7iaBUp9 Sjo@88 tq=@88 HTSat7iaBUp9_JUhmFICmla@89 tqh3@89 HTJanHTABUp9 Sjo@8A rb=@8
 A VTSaP,TI; nHkfc@8B hiW,Da@8B PLDaP,TI; nHlVW,Dc@8C UPa@8C PLUaREV#iHnub@8D nHFEEDa@8D RIarEhTFT h
 Ha@8EqK-hTFT-2a@8E SS2arEhTFT moa@8FqK-hTFT-3a@8F SS3aDCSa@90 wshNlBPRIVhY UiH%Eb@91 USE-1a@91 PU1a
 PRIVhY UiHhHb@92 USE-2a@92 PU2aSET i1NSMIT htTEa@93 STSaq6 t7a@94 CCHaMj0hu WAITlB@95 MWaSPAa@96 l5
 TkeGU,Dh1,E(@96 iFTECTnFqeGU,Dl6c@97 iFTECTnF@97 EPAaSOSa@98 l5TkehNlBSGCa@99qK nehRt7 !TRODUC#aSCI
 a@9AqK t7 !TRODUC#aC%TROL SEQU.Cle@9B C$aSTa@9C hN>T#M!AinaOP#AT>SYSTEM n2NDa@9D OSCaPMa@9E PRIVAC
 Y Mj0huaAPCa@9F APPk6p6PRnm n2NDaNBSPkOD SHYhAA2 xpGHAb^=@34F CGJa@61C ;Ma@709 rTjvkd, w3kba@CDE K)
 NADA ~Lhxa@E9D LAO ~FO F%d@E9F FAYc@EA3 ROc@EA5 LOa@FD0 TIBhPNmw BKA- iUG GI MGO RGY)l3EC rHJ%GSE%
 G sA-odcsA-nCodp1sAcsA-r6hA80B FVS1*2aMVSaFVS4jZ00B ZWSPaZWNJaZWJaLRMaRLMjZ02A LREaR&aPDFaLROaRLOaN
 NBSPjZ05F MMSPaWJjZ066 LRIaRLIaF$aPDIjZ118 WEI#hNiq ELjrThRFUNnbjZ448 MICR % USqIblN:jZB7AnDya_qBwV
 jZB7C tn+6kO015 YI tHIT#mloo@AA6E MY)M, ~hFMTI hxa@FEhEVS1*8aVS10*6a@FE18 ypoQoVuOroa@FEFF BOMa@FEF
 F BYTE ORD#oo@FEFF ZWNBSPhA22D4 CUNEIhiMoYNU11o1orNU11 BURofBURhA6E56 MEDEFAIDR! wQHdNGj66E76 vjHdN
 GhABka H.TAIG)A ~E-1hAD0C5 BYZ)T!E r7qI F<ORxGVA$Sa@E01hEVS17*52aVS100*9C"]

end TypedTemplate.Text.CharName
