/-! Names of the characters of East Asian scripts, and of the forms kept for other encodings. -/
namespace TypedTemplate.Text.CharName

def eastAsian : List String := [
 "jZChEGjHOLIThRwQzOdDZELOdZEMLJAzwdOTUdPEdyzdSPiSRY hOYUd^ YUSpDkodzJhkIZHIhydSHTAPICdTROKUTAhm Ai3
 T!hY MYSLITEdCAUDhYj5RIVIw7zOdDZELOdZEMLJAzwdOTUdPEdyzdSPiSRY hOYUd^ YUSpDkodzJhkIZHIhydSHTAPICdTRO
 KUTAhm Ai3T!hY MYSLITEdCAUDhYj5RIVIaxpL_qBB,yEL_qCmndPvAdR_kow7AvAdT_sF:wxH_tIyBKySZySnadMtprjAenaw
 7V_oQkgwxWqkrmdV_lKwxn3Hb^hdko&SS PHIdE_iQCHrjR_kodO_kjR>!l4bxoqJEbjvqVvjJawyrUVaxpS_SWhB kodZh3COP
 ThRwQ;FyNVIDyNGlCyCD;DyNEIEyCSOUyCZATyNHhYyC<E<EyCIAUDyNKAPyNLAULyNMIyCNIyCK$yCOyCPIyCROyC$MyNTAUyC
 UyNFIyCKHIyCP$yCOOUyCuWkryDuxA!yBv5hREIEyDuWKAPAyDuWNIyDv5IC:yDuxOOUyBSAMPIyCmth1h6IyDkuCOPTIC:yBux
 ibyBAKHMIMhRKHEIyDuWHORIyDkuCOPTIC:yBuxHAyBL-h7Pl6yDuxHEIyBuxHATyBuxG)GIAyBuxDJAyBuxhTMAyBkuNUBI):y
 BkuNUBknNGIyBkuNUBknjEyBkuNUBknWAUrmboj KisMI ROcPI:chtUROSi9U ROcKHI:hCIMA $MAwxv5hRh6IyDv5hRG)GIA
 b^hXtoNIqOmeITUS ASP#d&NISwxBOHjShRKHEIb^hX@2CF9 kuNUBkntEdpn rhmwd!pnh9V#iHljD#bvrl1usMORPHOruljD#
 atkvj)dB)dG)dD%d.dV!dZ.dT)d!haNi3SdM)dN,d%i8RdZH,jAEdS)dT,dUNdhoRdhFRdGH)dQ,dhTNdi7NdC)dJILdCILdCH,
 dX)dJH)dHiGilHIEdWEdH,dHOEd@2D27 YNd@2D2D A.jZD30 TIF!AGH ~Y(YABioBHioGioGHHipRB# ACADEMY YAJl0YADi
 oDHioDDioDDHcYEYioFioKuPYAKHHioHipRB# ACADEMY:uPYAHHio(YAKHuPYAQuPYIioZHcAHAGG,:uPY;j9TU,EG YAGNdY)
 GioPcYUioRioRRioGHuPAY#:ioSioSSioSHioTio<ioCHioTTioVhlYAYhlTAWEL&MET:ioZZcjhYOb@2D6F wyLABI;IZmloes
 y:b@2D7F td JO!#axLLO(MO(RO(SO(iU(BO(TO(CO(NO(NYO(scO(ZO(DOlqO(JO(<O(it(PHO(PO(GGW(GGk5GGWh4GGWEc@2
 DA0 SS(SSUcS$cSSA(SSh4SjdSSOc@2DA8 CC(CCUcCCIcCCA(CCh4CjUCCOc@2DB0 ZZ(ZZUcZZIcZZA(ZZh4ZZEcZZOc@2DB
 8 CCH(CCjgCi7cCCHA(ChKEcChKcCitc@2DC0 QY(QYUcQYIcQYA(QYh4QjhQjY@2DC8 KY(KYUcKYIcKYA(KYh4KjhKjY@2DD
 0 XY(XYUcXYIcXYA(XYh4XjhXjY@2DD8 GY(GYUcGYIcGYA(GYh4GjhGYOjZDE0 totF~w4ZilZExwy6FIhkES-TEdAdIEdDJ#V
 dM%One UKdYATdYUdpsh1AdpQ YUSdBIG:dpsnjoQmz jvhmTUkymw#rG=mkjvhmTUkyroarYmkh8Tnjrdr4!T#POp9mw#bh8Tn
 jqvi1NSs9:omi1NSs9roarYr4ocomr4OMIS$%roardEDIinI; COR%ISaP,AneOSahiKnFrf=HYPODIASTO&aqvOkFOSasm )CO
 RAaqE:aqvw9 mzaqBshpSasp!T#ROB)GaP;M BR)CHapSwTamn_kioWomkjP,APHRASEroardmnwSdn0omvD_jDLLasElPmkl1r
 obrYounDh2rYmksV U:ardmkqBuiarYrgofkch8 ubakch8ofrg:as0nSh8:akmlzoosorh:asqmnaR>nMao8sy qCh8aqJn2ar
 4h8bn2aqJtKaDAGG#_mkGU,DcqLaqJDAGG#alPn3qlobhH-EM lNamo-EM:aST.OnehRtEasq$XlzSaWIGGLY vqaCAPITULUMa
 qBpSason2aqBhg-rf-9whalN_mkUPlLaqBSUSP.$%oospkjKAVYjKn5KAVYKAoWakjKAVYK(n5h8aqBhtCKh1n2aqvr5aqbDAGG
 #aMEDIEV; n2aP,AneUSooPUNCTUS E&VATUS:aCjWiR V#iHljD#amtiATTY_oQmtB,dpIaTIR%I)oYrUjoMEDIEV; ueoerh:
 omw8vAasEmkw8_riaR?jNlPn3mkuicqLaou n3pIcqLashpSjZEjRCJK RADliikPEhSCLIFFiKC%D qipCcpUcj3i9B&cKNIF
 E qicljNmliK;c^ qim3E %EwicSNAKEc<hfDcSNhv qicnK qicklcRi2@2E9Bj5OKEiiNcMO%cDEA<cMO<#cCIVILI)coC qi
 cFkEcPAW qicuyn3TREE TRUNKcCOWcDOGcJADEcBOLTkeCLO<cj4cmeIT qicBAMBhM$LKcCvzcNET %EwicMibhCEiwjlcEWE
 cjFcBRhq qicMEhSMORT,ciCSS qipCcTIG#cCLO<ESclD qiwGSh4uyHjWc:wGSPEECHdh6LLcFOOTwGC,TcuyW;KcW;K qicC
 ITYwGGjFcmmqiwGlTdGhYcMlb qicRA!cBLUEwGT)Nh1&A<#d&AFdW!DdFLYcEjLqipCwGEhSkswGHORjdB%EcGHOSTwGmZdBIR
 DdS;TcuyWHEATdYELhgwGFROGcJ-uyEV.cCvzcJ-uyTOO<cCvzcJ-uyDRAG%cCvzcjmT&cJvzcCvzjZFhEK)GXI RADli %Eckd
 ch8cnkiKC%DckgchHcLIDcM)c&GSc.T#cE?cmuj3cCl9cIjUTAB&cmyj3cKNIFEcPOW#cWRi2SPO%coQmyj3cHID>.ltUREmRcl
 jNmliK;cCLIFFcPRIVhYcAGA!cntc.ltUREcE,<cSitL,cGOdShgLYcEV.lOBIGcoHci7LDcROOFc!CHc^m3EcCORPjdSiFiPsS
 cRihRcWORKc%ESELFcjmB)cDRYcp0<hfDrG CLIFFcmmhNiSckqklShCOhbBOWcSNhvcBRiM&cSTiwnKcH;B#DcDOORcklcBR)C
 HcRi2SCRIPTcDIPP#cAXEcocciQiiNcSAYcMO%cTRh4LjjcSj2cDEA<cWEAP%cDOlQcmJ,EcFhnCL)cSTEAMcoCcFkEcCLAWcFA
 <#cqBXcn3TREE TRUNKcSk6EcF)GcCOWcDOGciFFlbcJADEcMEL%cTI&cSWEk1LIFEcUjdFIELDcBOLTkeCLO<c$CKNj0rG T.T
 cmxcSK!cmYcj4cSPE,c,iXcSm5cmei4i1CKciC!cCAVEchtNDcBAMBhMRIjU$LKcJ,cNk1h6iwFEA<#cjFc)DcPhgcE,cBRhqcM
 EhSM!iM#iKLFc,RihcMORT,cT%GUEckQOjdBOhSSj2PlOCOLORciCSScTIG#c!SECTcBLOODcW;K .ltUREcCLO<ESclDiKEcHj
 WcSPEECHcV;&Yip)cPIGcBADG#hCELLi6DcRUNcFOhbBODYcC,TcBITT#cMjWlOW;KcCITYcW!EcDiM!GUiRcVIhxGEcGjFclTc
 GhYcMlbcSLAVEcp0koh1BIRDcRA!cBLUEcWR%GcmCc&A<#i9NNl6c&EKcSlbc&AFcW!DcFLYcEhSkscFRAiCNTcHORjdB%Ei9LL
 cHjScF?cSACRIFICI; W!EcCAULDR%cGHOSTcmZcBIRDcS;TcDE#cWHEhSHEMPcYELhgcic&TcmrcEMBROiSRYcFROGchhPODcD
 RUMcRhSNOjdEV.cTOO<cDRAG%cjmT&cFLUTEjZFF0 vLDESCRIPky t7 s6R?dno iun0ds6pFmjR?dno iuqC)DoidFjx SURn
 UdSURnU FiYoWfn0fkbfnT:gR?fogkbdpPIDb@30hEo4bn2btEaDITTOmwta !DUhNI; htND,DrXvLIT#mloelt!G:bqYZ#Oom
 mzroarYmkoT=rdmkpG:arYmkmx=rdmkoXuO:ardPOhtLooGhP:omwFroardmkoVuO:ardmkoVwF:asEmkoVoc:ardlu lNasoqB
 PRIMEwhahDhghDPOhtLmw nIH)GZkG o5; zRavL&VEL m5oeRI$NGh2DEP,T!Gh2.T#!G=rHrEh8h2oTh3WAVY lNasqK)AikP
 EATmwdn5mXh1Slb:dnQoal1dn5mXh1SlbhdnQnB:arWPOhtLoovLTE&ne nHFEh1syrXH)GZkG o5; T.cp4cpNasqvLIT#mloo
 MASUlX,T sdI%:avLlfp6tYbn3FILL o4a@3041 tP~^ (:c^ Il0^ Ul0^ El0^ Ol0K(G(KIcGIcKUcGUcKEcGEcKOcGOcS(Z
 ($cZIiicZUiKcZEcSOcZOi9hZcTIcDIc^ TUl0DUjCcDEcTOcDxnB(P(kCBIcPIcjgBUcPUciIBEmck8BOcPOcwu^ Y(:c^ YUl
 0^ jY:cww^ W(:ck5WEcWjscVUc^ jKKEa@3099 tos1-tPmXh1SlbpHm7-mXnjs1-tPmXEDh2m7-mXnjtPIT#ml:bmXEDh2DIn
 e YORIas1-tPqBpSas1 ~^ (:c^ Il0^ Ul0^ El0^ Ol0K(G(KIcGIcKUcGUcKEcGEcKOcGOcS(Z($cZIiicZUiKcZEcSOcZOi
 9hZcTIcDIc^ TUl0DUjCcDEcTOcDxnB(P(kCBIcPIcjgBUcPUciIBEmck8BOcPOcwu^ Y(:c^ YUl0^ jY:cww^ W(:ck5WEcWj
 scVUc^ jKKEcV(VIcVEcVObqCh8as1-tPiFlTh1Slboos1 IT#ml:bmXEDh2DIne KOTOa@3105 BOPOMOFO ~BcPcMcFcDcTcN
 cLcGcKcHcJcQcXcZHcCHhCcRcZcCcSc(OcEcEHcisEIcAUcOUc)c.c)Gc.Gc#cmEIUcVcNGcGNcIHcOwScNNa@3131 rH~odp1o
 dcod-kkcnVqnn7qnp8onp1oncnAqHodqHnLqHmpqHuwquqHqcqHp8nLcmpp1mpqWkkckkp1kkpJcn7p1n7cqhcym(k0Y(Yk0EOc
 EcYEOcjhOcW(Wk0OEcjYUcWEOcWEck5YUcEUcYIcIbpxb~nCnVqnonqnkkqnr0qHod-uwonqHmp-uwr0qHvenL-mpqtkkqtr0cr
 wnLqWodqWonvVodvVonqWn7qWqucrwmpcrwnCmpoyodoynVoyonoympoyn7cr0p1IEhrcsAcsA-kkcsA-r0crwqcp1p8veYO-Y(
 YO-Yk0YO-IcYU-YEOcYU-jhYU-Ic,AE(,AEAEa@3190 vL)iQp6L!K>M,Ki6V#SE:c%E:chH:cmo:ckh:cj2:cpF:cou:coP:iK
 C%D:co6:ckh<:cHEAV.:",
 "a@319E vL)iQp6E,<pHM):aBOPOMOFO ~BUcZIcJIcGUch4.NchM%NcIRc)Nc!NcUNNcIMcNGGcA!NcAUNNcAMcOMc%Gc!NNbo
 k~PdTdKdHb~GHcLHcZYbok~Gb~GWcKWcOEcAHaCJK ot TcWGcXGcBXGcSWcHZZcHZGcHPcHZWGcSZWGcHZTcHZZPcHPWGcHZWc
 HZZZcNcHcScPcSPcDcHZcHGcSZcSWZcSTcSGcPDcPZcTNcSZZcSWGcHXWGcHZZZGcPGcQa@31F0 s1 ~^ KUd$dSUdTOdNUm1HI
 dHUdiljyMUjAdRIdRUdREdROawPrHodcnVconcnAcnLcmpczm (nV:con:cnA:cnL:cmp:ckk:pJ:cn7:cqh:cr6:cqu:cqc:cm
 GH:cn7 UbKOhfN t7 OJE%dO HUb@3220 t5 zRmRcMO%cFkEcoCcWOODcMhPLcE,<iiNcSTOCKcHAVEcSOCIETYcNAMEcSPECI
 ;cF!)CI;cC%iCTUp9cLABORi6Phj.TcC;LcSTUDYiiP#VIjd.T#PRIjdhjOURjU;LI)jUFEhmV;i6STiKLFi6ixarWt5 rhcK!D
 #G,T.cSitOLcKOTObu3 % oXoccp4hcpNhchiTYhcnchc$XTYhcn6TYhcE?Yh3P,TN#hTPobrWqYp4 zScpNd%EwinhbrHodcnV
 concnAcnLcmpczm (nV:con:cnA:cnL:cmp:ckk:pJ:cn7:cqh:cr6:cqu:cqc:cmGH:bKOhfN t7j5AMKOdJUEUIbrHIEhr Ua
 KOhfN htND,DrXrWt5 zRmRcMO%cFkEcoCcWOODcMhPLcE,<iiNcSTOCKcHAVEcSOCIETYcNAMEcSPECI;cF!)CI;cC%iCTUp9c
 LABORiKCRk1M;EcFEM;EiiITAB&cEXCEL&NTcPR!Tciv.kycITEMi6STcCOPYcCORk3TclkcovchgckbcR?cMEDIC!Ei6LIGI%c
 STUDYiiP#VIjd.T#PRIjdhjOURjU;LI)jUN?bqYpN $Xdn6dE?dktchiTYdzScncavLTE&nevPJ)U,YeFEBRU,YeM,CHeAPRILe
 MAYeJUNEeJULYeAUGUSTeSEPTEMB#eOCTOB#eNOVEMB#eDECEMB#aqZHGb#GbEVaLIMIlgLIABILITYobrWs1 (mEEcOhwcKIcK
 UcKEcKOcS($iiiKcSOi9cTIcTUjCcTxnkCjgiIk8wuY(YUcjYwwW(k5WEcWOaqZ#A NAMEikIWAbAPAATOb,UHUAb)PEAbA,Ub!
 !GUb!TIbU%bESUKUUDObEEKAAb%SUbOOMUbKjSIbK,ivObK,ORIIbG,%bG)MAbGIGAbG!IIbKYURIIbGIRUDAAbKIRObKIROGUj
 lUbKIiYEEinUbKIiXivObGUjlUbGUjlUT%bjbUZEIRObjbO%EbKEESUbKORUNAbKOOPObSAIjbUbS)TIIMUb$kiUbS.TIbS.TOb
 DAASUbDE$bDORUbT%bN)ObiQTObHAITUbPAAS.TObPAATUbBA,#UbPIASUinUbPIjbUbPIKObBIRUbHU,ADDObHUIITObBUSSY#
 UbHUR)bHEKUTA,UbPESObP.IHIbH#UTUbP.SUbPEEZIbBEhPbnMObBORUTObH%bP%DObHOORUbHO%bMAIjbObMjSUbMAHHAbM,U
 KUbM)SY%bMIjb%bMIRIbMIRIBA,UbMEGAbMEGAT%bMEEinUbYAADObYA,UbYU)bRITinUbRIRAbRUPIIbRUUBURUbREMUbR.TOG
 .bWivOavLTE&nevPkGR Z#Of%EyrE?fktfT.fE&V.fppf<IRlSfkhlSfFIFlSfqrfn6lSfE?E.fktlSfp4sB%EsBhHsBmosBkha
 qZHPAbDAbAUbB,bOVbPCbDMcocDcCUBEDbIUb#A NAME HEISEIdSYOUWAdTAISYOUdMEIZIbCORPORmlbPA AMPSbNAbMU AbM
 AbKA*1bMBbGBbC;bKC;bPFbNFbMU FcGbMGbKGbHZbKHZbMHZbGHZb<ZbMU LbMLbDLbKLbFMbNMbMU MbMMbCMbKMbMM ocDbC
 M:bM:bKM:bMM CUBEDbCM:bM:bKM:bMofSeocDbPAbKPAbMPAbGPAbRADcnsSeocDbPSbNSbMU SbMSbPVbNVbMU VbMVbKVbM
 V MEGAbPWbNWbMU WbMWbKWbMW MEGAbK OHMbM:bAMbBQbCC*1bCofKGbCObDBbGYbHAbHPb!bKKbKM rQbKTbLM*1bLOGbLXb
 MB ^bicbMOLbPHbPMbPPMbPRbSRbSVbWBbVofMbA=vLTE&nevPDAY %EyrE?fktfT.fE&V.fppf<IRlSfkhlSfFIFlSfqrfn6lS
 fE?E.fktlSfp4sB%EsBhHsBmosBkhsBkmsB$XsBn6sBE?sBktfpNfpN-%EaqZG;a@4DC0 HEXAiCMnplpChfTih HEAV.dk3EPT
 ih E,<cDIFFICULTY jLlpBEG!NlOYhvHFUL FOLLYcWAITlOC%Fk6Tclp,MYcHjF>TOGE<#c^iaMlOThfDlOPEAjUhtNDhmLLc
 FELhghTPcGhfTjwSSj0I%cMODESTYc.<U$ASMcFOLhglOWORK % lpDECAYEDcAPiFixcC%TEMPp9cBIT><ROUGHciCjUSPLITT
 >AP,Ti6lLc!NOC.jUGhfTiaMlOnt pGScGhfT PREP%D#)jUlpABYSM; oCdCL!G>FkEc!FLU.jUDURmli6ThfTcGhfTjwW#ciF
 GhjShZRK.>OF lpL?clpFAicYcOPs9cOBhNUnbcigihR)jUDEChfjd!ChfjdBhfK<ROUGHckL>iuMEk1GA<#>TOGE<#cPhq>UPW
 ,DckQhj$%clpWELLi6VOLUkyclpCAULDR%d,OUS><nvdKEEP>hmLL sScDEVELOPlGclpM,RY>MAiSNcABUND)jUlpW)D##dG.T
 & W!DdJOYOUS LAKEcDISP#$%cLIMITmlc!N# TRU<c^ PREP%D#)jUAFT# mJ&kyiphile@A0hEYI tHi4iyIcjImIl8iTlFhS
 iN(i2kxiLlJhbiDOchpieEcWUcBi4BiyBIcBjIBmIBl8BiTBlFBhSBiNB(Bi2BkxBiLBlJBhbj3cBOcBhpBieBEipPcBiPBi5BU
 cBhsBl2BhnBjOBjcBYcBjVBloBjiPi4PiyPIcPjIPl8PiTPlFPhSPiNP(Pi2PkxPiLPlJPhbPiDPOcPhpPiPPi5PUcPhsPl2Phn
 PjOPjcPYcPjVPloPjiBBi4BBiyBBIcBBjIBBmIBBl8BBiTBBlFBBhSBBiNBB(BBi2BBkxBBiLBBlJBBhbBj3cBBOcBBhpBBieBB
 EcBBiwBBiPBBi5BBUcBBhsBBl2BBhnBBjOBBjcBBYcBBjVNBi4NBiyNBkJBjINBl8NBiTNBlFNBhSNBiNNB(NBi2NBhbNj3cNBj
 sBhpNBiPNBi5NBkNBhsNBl2NBhnNBjONBjcNBYcNBjVNBloNBjiHMi4HMiyHMIcHMjIHMl8HMiTHMlFHMhSHMiNHM(HMi2HMkxH
 MiLHMlJHMhbHMiDHMOcHMhpHMiPHMi5HMUcHMhsHMl2HMhnHMjcHMYcHMjVHMloHMjiMi4MiyMIcMjIMl8MiTMlFMhSMiNM(Mi2
 MUhbMkxMiLMlJMhbMiDMOcMhpMieMEcMiPMi5MUcMhsMl2MhnMjOMjcMYcMjVFi4FiyFIcFjIFhSFiNF(Fi2FiDFOcFhpFiPFi5
 FUcFhsFl2FhnFjOFjcFYcFjVVi4ViyVIcVjIVmIVl8ViTVlFVhSViNV(Vi2VhbViDVOcVhpVieViwViPVi5VUcVhsVl2VhnVjOV
 jcVYcVjVVloVjiDi4DiyDIcDjIDl8DiTDlFDhSDiND(Di2DkxDiLh8cDiDDOcDhpDieDEcDiwDiPDi5DUcDhsDl2DhnTi4TiyTI
 cTjITl8jkcTlFThSTiNT(Ti2TUhbTkxTiLTlJThbTiDTOcj2jCXjCjCPcTiPTi5TUcThsTl2jmcDDi4DDiyDDIcDDjIDDl8DDiT
 DDlFDDhSDDiNDDlqi2DDkxDDiLDDlJDh8cDDiDDDOcDDhpDDieDDEcDDiwDDiPDDi5DDUcDDhsDDl2DDhnNDi4NDiyNDkJDjIND
 l8NDiTNDhSNDiNND(NDi2Nh8cNDiDNDjsDhpNDieNDjMDiwNDiPNDi5NDkNDhsNDl2NDhnHNi4HNiyHNIcHNjIHNmIHNl8HNiTH
 NlFHNhSHNiNHN(HNi2HNkxHNiLHiQcHNiDHNhpHNieHNEcHNiwHNiPNi4NiyNkJjINl8NiTNlFNiNN(Ni2NkxNiLNlJiQcNiDNj
 shpNieNjMiwNiPNi5NkNhsNl2NhnHLi4HLiyHLIcHjrcHLl8HLiTHLlFHLhSHLiNHL(HLi2HLkxHLiLHLlJHLiDHLOcHLhpH&Xc
 H&cH&PcHLiPHLi5HLUcHLhsHLl2HLhnHLjOHLjcHLYcHLjVHLloHLjiLi4LiyLIcjrcLmILl8LiTLlFLhSLiNL(Li2LUhbLkxLi
 LLlJLhbLiDLOcLhp&Xc&c&PcLiPLi5LUcLhsLl2LhnLjOLjcLYcLjVLloLjiGi4GiyGIcGjIGmIGl8GiTGlFGhSGiNG(Gi2GUhb
 GkxGiLGlJGhbGiDGOcGhpGk1GieGEcGiwGiPGi5GUcGhsGl2GhnKi4KiyKIcKjIKl8KiTKlFKhSKiNK(Ki2KkxKiLKlJKhbKiDK
 OcKhpKk1KieKEcKiwKiPKi5KUcKhsKl2jbcGGi4GGiyGGIcGGl8GGiTGGlFGGhSGGiNGG(GGi2GGUhbGGkxGGiLGGlJGGhbGGiD
 GGOcGGhpGGk1GGieGGEcGGiwGGiPGGi5GGUcGGhsGGl2GGhnMGl8MGiTMGhSMGiNMG(MGi2MGkxMGiLMGlJMGhbMGiDMGOcMGhp
 MGieMGEcMGiwMGiPMGi5MGUcMGhsMGl2MGhnHXi4HXiyHXIcHXjIHXmIHXl8HXiTHXlFHXhSHXiNHX(HXi2HXUhbHXkxHXiLHXl
 JHXhbHXiDHXOcHXhpHXieHXEcHXiwNGl8NGiTNGlFNGhSNGiNNG(NGi2NGUhbNGkxNGiLNGhbNGiDNGjsGhpNGieNGjMGiwHi4H
 l8HiTHhSHiNH(Hi2HUhbHkxHiLHlJHhbHiDk8HhpHieiIHiwWhSWiNW(Wi2WkxWiLWlJWiDWOcWhpWieWEcWiwZi4ZiyZIcZjIZ
 l8ZiTZlFZhSZiNZ(Zi2ZkxZiLZlJZhbZiDZOcZhpZieZEcZiwZiPZi5ZUcZhsZl2ZhnZjOZjcZYcZjVZloZjiCi4CiyCIcCjICm
 ICl8CiTClFChSCiNC(Ci2CkxCiLClJChbCiDCOcChpCiejUCiwCiPCi5CUcChsCl2ChnCjOCjcCYcCjVCloCjiZZi4ZZiyZZIcZ
 ZjIZZmIZZl8ZZiTZZlFZZhSZZiNZZ(ZZi2ZZiDZZOcZZhpZZieZZEcZZiwZZi5ZZUcZZhsZZl2ZZhnZZjOZZjcZZYcZZjVZZloZ
 ZjiNZi4NZiyNZkJZjINZl8NZiTNZlFNZhSNZiNNZ(NZi2NZkxNZiLNZiDNZhpNZieNZjMZi5NZkNZhsNZl2NZhnNZjONZjcNZYc
 NZjVNZloNZji$Tc$Xc$c$Pc$ie$Ec$iwShSSiNS(Si2SkxSiLSlJShbSiDSOcShpSiejdSiwSiPSi5SUiiPcSl2ShnSjOSjcSYc
 SjVSloSjiS$TcS$XcS$cS$PcS$ieS$EcS$iwSShSSSiNSS(SSi2SShbSSiDSSOcSShpSSieSjdSSiwSSiPSSi5SSUcSShsSSjOS
 SjcSSYcSSjVSSloSSjiZHhSZHiNZH(ZHi2ZHkxZHiLZHlJZHhbZHiDZk8ZHhpZHk1ZHieZiIZHiwZHiPZHi5ZjgZHhsZHl2ZHhn
 ZHjOZHjcZHYcZHjVZHloZHjiCHhSCHiNCH(CHi2CHUhbCHkxCHiLCHlJitTcitXcitcitPchKTchKXchKchKPcCHi5CjgCHhsCH
 l2CHhnCHjOCHjcCHYcCHjVCHloCHjiRRiNRR(RRkxRRiLRRhbRRiDRROcRRhpRRk1RRieRREcRRiwRRiPRRi5RRUcRRhsRRl2RR
 hnRRjORRjcRRYcRRjVRRloRRjiNRhSNRiNNR(NRi2NRiDNRjsRhpNRk1NRieNRjMRiwNRiPNRi5NRkNRhsNRl2NRhnNRjONRjcN
 RYcNRjVNRloNRjih7ThCiNlah7PhCkxiZOhClJiUThCiDiUhChph6ThCieh6hCiwiZThCi5iZhChsSHl2iZRhCjOSHjcSHYhCjV
 SHloSHjiRhSRiNR(Ri2RkxRiLRlJRhbRiDROcRhpRieREi6PcRiPRi5RUcRhsRl2RhnRjORjcRYcRjVRloRjiJi4JiyJIcJjIJm
 IJl8JiTJlFJUhbJkxJiLJlJJhbJiDJOcJhpJiPJi5JUcJhsJl2JhnJjOJjcJYcJjVJloJjiQi4QiyQIcQjIQmIQl8QiTQlFQUhb
 QkxQiLQlJQhbQiDQOcQhpQiPQi5QUcQhsQl2QhnQjOQjcQYcQjVQloQjiJJi4JJiyJJIcJJjIJJmIJJl8JJiTJJlFJJkxJJiLJJ
 lJJJhbJJiDJJOcJJhpJJiPJJi5JJUcJJhsJJl2JJhnJJjOJJjcJJYcJJjVNJi4NJiyNJkJJjINJmINJl8NJiTNJlFNJkxNJiLNJ
 hbNJiDNJjsJhpNJi5NJkNJhsNJl2NJhnNJjONJjcNJYcNJjVNJloNJjijETcjEXcjEcjEPcjEk1jEiejEjMYlFNYkxNYiLNYlJN
 YhbNYiDNjYNYhpNYiPNYi5NYkNYhsXi4XiyXIcXjIXmIXl8XiTXlFXkxXiLXhbXiDXOcXhpXjOXjcXYcXjVXloXjiYi4YiyYIcY
 jIYmIYl8YiTYlFYUhbYkxYiLYlJYhbYiDjYYhpYiPYi5YUcYhsYl2YhnYjOYjcYYcYjVYloYYRb@A490 RADli QhbLIcKi4jEP
 cCjVS$cGGhpGiwMIcHXi4LjiBBiPMhpjYPiPHXiLThSG(ZhsCjODDhnBhnGGiLNYhpTUchpJJiPZhbPjOHMOcYi4VhnSHYcViwZ
 (JjsZhsJJYcGhbJJiTWOcDUhChnLiTCYcClJCjIHXhph7TcZhniUPchKcZZmINBiTKEkO4D0 LISU ~B(P(hohZi9c<(G(K(hFc
 J(CpdDZ(hycTlaM(N(LngZH(ZpfH(X(HH(F(W(laY(GH((k0EcEUcIcOcUcUEcUHcOEcnOMkHTIdNAjwdMkHCjXBOeNAeJEUbu
 b n2ctEaVAI tHh4E.cHh4Wh4WE.cPh4BHh4Bh4MBh4KPh4MGBh4GBh4Fh4Vh4Th4<h4DHh4DHHh4&Ei6EcDh4NDh4Sh4h6EcZh
 4ZHh4Ch4Jh4NJh4Yh4Kh4NGGh4Gh4Mh4Nh4NYh4Ic!ckCH!ck5W!cPIcBkCBIcMBIcKPIcMGBIcGBIcFIcVIcTIc<IcDkCDHkCL
 IcRIcDkJDIc$hCIcZIcZkCCIcJkJJIcYIcKkJGGIcGIcMkJkJYIc()cNG)cH(H)cW(W)cP(BH(B(MB(KP(KP)cMGB(GB(F(V(T(
 <(DH(DHH(L(R(D(NDnglaZ(ZH(C(J(NJ(Y(K(K)cNGG(G(M(NpihMO%cHhMWhMWO%cPhMBHhMBhMMBhMKPhMMGBhMGBhMFhMVhM
 ThM<hMDHhMDHHhMLhMRhMDhMNDhMShMiUOcZhMZHhMChMJhMNJhMYhMKhMNGGhMGhMMhMNhMNYhMUcUNcjgHUNcWUcWUNcPUcBj
 gBUcMBUcKPUcMGBUcGBUcFUcVUcTUc<UcDjgDHjgLUcRUcDkNDUiihCUcZUcZjgCUcJkNJUcYUcKkNGGUcGUcMkNkNYUcOc%cNG
 %ck8H%cWOcW%cPOcBk8BOcMBOcKPOcMGBOcGBOcGB%cFOcVOcTOc<OcDk8DHk8LOcROcDjsDOcSOhCOcZOcZk8COcJjsJOcjYKj
 sGGOcGOcMjsjsjYEc.cNG.ciIH.cWEcW.mcBiIBEcMBEcKPEcKP.cMGBEcGBEcGB.cFEcVEjCc<EcDiIDHiI&i6cDjMDEiKhCEc
 ZEcZiIjUJjMJEcjhKjMGGjMGG.cGEcG.cMjMjMjhNGcpa.#bn2usrhoetHNDO& FAhadSOOboj FE.GcKE.GcTlONjuB)GcFA(T
 A(D)GcDO%GcKhrcT%GcDO-OcJ%GbzdbtHNDO& iJDOkO640 tFwQZEMLYyNDZELOyCsoDZEyDlnyCDJ#VyCM%One UKyDBROA
 D nEyDqs Y#yDY#U_lVyTpsh1YATyDsoYUyDpsh1AyDqUpQ YUSyBB&NDl6yDpsh1qUpQyTYNyCsoTSEyDmd DEb^+3",
 "kO664 tFwQmd ELyDmd EMyDM%OoA OyDB!OoA:yDqBM%OoA:rmb~MULTIOoA:atotFVZMk1T. icLI%Smvcqfh0rc=SLAV%hR
 rpatotF~v6EdIdYmFyLdnEhwVYK(PAY#OKatFKAVYKAbPAY#OKwxDWEyCDZWEyCZHWEyCChKyCDZZEyCTE_qCkgyETWEyCTSWEy
 CTSSEyCThKyCHWEyCSHWEyCqBOyDmtl6b^h3wytFH,Dmvdmd:atotF~EFdpsh1EaBAMUM ~(K(UcKUch4Rh4Tk0jsYIcIcL(P(R
 juRIh4&Eh4MEEh4TA(NDA(NJkAcMiiUcMUhCju$hCEi5SEi5KYh4Kk1NUk0NkNJUk0YOQhCUcYUQiocNlaKEi5PEi5NJh4NTh4P
 UEcWUEcPh4Fh4RUcLUcMkJIi6i5Rk0K.cNGKWA.cNGGpfiUcPUk0FUcFOMcW(N(LIcPIcLOQcKOcMB.i6NcM.cM(TIcKIcMOcMB
 A(Tk1KP(T.cNTUUcSAMB(FAAMk0KOVUUcKOGHOMbtonQKOQND%dTUKW.TISbNJkALIusnPbn2btKbrhoo@A7hEwyi7NEiHnOY
 ! P!GeY)G:eY! h7NGeY)G:eY! QUeY)G:eY! RUeY)G:cq4n1qvnOB,clkhcMIDhchghcq4hghcq4n1qvkb-STEMh0lkiVMIDi
 VhgiVq4hgiVq4lkhclkhcMIDhchghcq4hghch8 rb:dnkduZB,cvQpG mzcr4UPoRdpVduemwdpgEDh0hghchNj0mjn1m5ehg:a
 xpEGYPTOrukryDEGYPTOruA!yDH.GyCTZyCThjILLOyCCUAhhLLOyCCUAhhLLO_n2rmbxoFeSwxAyNAOyCAUyCAVyCAV_uZB,yE
 AYyCsoCsvyEKz7K_sFyTKvAlm+2yHBROK. LyDL_n1otyEO_mmot pPYyFO_mOyBOOyCPvAtTtIyFP_FLOURiRyBP_SjDRREL k
 oyEQvAtTtIyFQ_t3otyER ROTUNDAyDRUM:yDV_t3otyEVYyCVI$GO<hRZyD<jWz7<jWvAtTtIyFV.DyCETyCISyCC%b^=wyk2x
 QDidLidMidNidRUMby0w7TidUMwxsQDyDsQFyDsQGdlLEDySqJLyDsQRyDsQSyDsQTb^h3wykjxDcnPcp0uhaxpS;TILLOyCqJH
 w7L_wAmjkFTb~$NOruh8wxN_tIyBC_B,rmfvadHhXwQB_FLOURiRyBFz7VOLAPUK AEyDVOLAPUK OEyDVOLAPUK UEyDG_shot
 yEK+3yEN+3yER+3yES+3yEHtpdsomyEdqVGdL_kFTd^ rUIbxoQwxqJKeTdJxai7dBhPyCnEyCUz7scAyDscIyDscUyDkuPOLi
 R OyB)Gk6)A WyDC_vadSqkdZ_P;AT;:dD_p0ot pPYyFSjn^+6b@A7D0 wQqUsQGrmd@A7D3 qB<jWe@A7D5 WYNNwxqCSCOT
 S SyB$GMOID:b^h3@A7F2 wyrUCdFdQaxpson3HrmbEPInehR~sV IawyrUHvAc^ sxOEaptxoqJMbEPInehR~soFePdspMdI l
 TAds5MaSYLOTI NAGRI ~AdIpeDVISV,(~UjfOpeHAS)T(~KOdKjyGOdGHOperkc~COditdJOdJjyTTOdT<OdDDOdDDjyTOd<Od
 DOdDjyNOdPOdPjyBOdBjyMOdROdLOdRROdSOdk8ugAeIeUeEehMPOETRYmwhJ3pet2 HAS)TAkO830 o9 !DhRvrqQel1dwCdkc
 qr<eE?HpC qr<ScqQpHoLHjF#:cRUPEE:cQU)TITY:kO840 hoGS-PA ~sHyvu9Mw1(W(ZH(Z(^ uolaS(H((mEEcOcQ(X(F(GG
 (EEbuN~WAdYAb~TT(T<lq(NN(t2 Y(mXE&SS lamXh1H(AmeAlgFAbuN~RAbSUP#FIXEDh2~ukbrEksoetQnQlMcrikO8jRSAUR
 hBi1oYwcAbzKEch4isOchMzqy8xH(hxbwUHA,UvEvpxFjfh5jBOdOOwE(ukb@A8CE wYzdkO8E0 toDEV)AG,Izec~AkUjKNAi8
 jAdVIper9AaDEV)AG,IoYSPAC>ukcuk nn(oTh0uk hHpCdr9(PhqPIKAbGAP pxbC,ETbksotoUsfJA! OMb~AYbnlmv:aKAYA
 H LIzec~KrDj8Gj7j7hOZj8hIhkHhkNAi8dhomQDAdBAjAdhILAdWAd<Am1VAdCAdAdOEdIdhMnl jpEkUh5OcnOPLOPHUdC;jX
 PLOPHUpeCWIdSHYAaREJ)G ~K(G(xm(C(JpiS(R(L(Y(W(H(MB(NGG(ND(NYJ(vlmFtldEUdEAbwUNGdNdRdHbnnjJA95F qloo
 rHitSE%G on-nLsLmpsLkksLn7qHodqHnCodqHonqHnConqHnLqHmpqHnCmpqHrwmpqHuwn7qHr6qtodqtonqtkkvVquqWr6qWp
 8nCkk-mppJ-nApJ-p8nCn7-p8nCqucqc-p8mGH-kkp1YEOR!mGHkO9jRJAV)ESEoYP)Y)GG(CECAKcLAY,cWIGNY)b~(I KAWId
 cImEPA C#EKcNGA &&TeRASWADIcEcisOhwdSASAKdmi(GAdmipfCAdmi(J(NkHmi(JA uMNY(ThkuMDDAduMNA mi(hkmi(DAd
 uMN(PAdmi(BAdmi(M(Y(RAdAGhrcL(W(SA miAdMAHAPR)AdcHAoUCECAK TELUvET,hrdTOlTdWULUeMELIKdSUKUeM.DUTdT;
 !GkSRGA MUREdPEPETbwUK#iEP.GK;dCAKRAbP)GK%pWR#.GG)bqLbPADAlmi2MADY(LUHhnW!DUcP)GKhSL!GS(Lhr$cADEGdA
 DEGcPISE&HblLEDh2@A9CFiANiCNGKEPbzdb@A9DEiADA TIRTA TUMETEScIS.-IS.aMY)M, ~h7N GHAo2JhONNAdBHAoUh7
 N SAWbwyh7NikDUPk6mlb~TAI LA>NjXFAmhGHAeJAeJHAeDDAeDDHAeNNAbTAI LA!GunezTb~TAI LA>hxeDAeDHAeBAeBHAk
 OAhECHAM ~(mEEcisOcsH(GH(NGUjMGpdCHH(J(JH(NHUjMH(NHJ(T(<(D(DH(NUjMlq(P(Pu9BH(MUEcM(BBuoV(SSngHvliOI
 dIIdEmFOEizjBjPUEbwUhIRAi3dWjJAA40 ~okKdGdNGbtdmvh2~okCHdTdNdPdYdRdLdSSbwUokMeHb@AA50zi@AA5C ub me;
 hZND(ricpO:aMY)M, ~hFMTI GAdCAo2JAdJhONxvDhONj7Am1HhOFAbwyhFMTIikDUPk6mlb~hFMTI XAdZAjAbLOGnm hFMT
 I OAYdQNdHMboj AIT% uedqib~AIT% RAoUPAO K,. m5i9I LA>nR2enR5b~SHWEiALAhrj5Aeh7aTAI VIET ~kjKvkKHvkK
 HHvkGvkNGvkCvkCHvkSvkNYvkDvkTvk<vkNvkBvkPvkPHvkFvkMvkYvkRvkLvkVvkHvkOdlk:cmaK)Gcnl iOIdjpUjfOcmaKHi
 4nl IAdUEAdUAdAjpAYd)dAMcnOmaEKeNU.Ge<OeS%Gc@AADBqI K%dNU.GdSirHO HOIdKOI KOIaw5~EdOo2NxvNNj7hOSS(u
 gIIeUUeAAIeAUeAAUchKIhFNcAH)G KHUDAMc)JIctHREPETIkypHWORDh0ugph(nnAkOB01 xLT<UcT<IcT<A(T<h4T<EcT<Oc
 @AB09 DDjgDDkCDDHAlqHh4DDiIDDk8@AB11 DZUcDZIcDZA(DZh4DZEcDZOc@AB20 CCHH(CCHjgCCHkCCCHHA(CCHHh4CCHiI
 CCHk8@AB28 BB(BBUcBBIcBBA(BBh4BBEcBBOkOB30 xQB,mNnadA rf-oMdmr~EdB,Rl6dE_FLOURiRd&NIS FdqVGxaL_spLA
 ZY SfqBqCmnfqCkidMxaNh9.Gh9mr~OpDotdkzhdspOErjOEvAgtq:eO kz-OozotdhmRRhURbxoR_oQ&Gw7Rnihv kl&dqBRdR
 xaoThdqVRpDkidBASEnHibdU_p0oQ&GeB,+4dUIdlLl6dU_mkkgdi7pYkjoQkigmkS#IFdX_kjoQkifmmmk&Ggmk&GmjkjoQkig
 mk&G_S#IFdY_p0oQ&GasO nf_spnfb~^ H.GdL_spLAZY SfqCmndU_mkkgaxQSAhF YATdpsh1EdmyOEdUOdspnaapLxonEaxQ
 DZrs_wAdTS+4rjR_qCmnawy^ qJWcmkTjjcqLkOB70j5#OKEE vjAjfIizUdVdGAhadGEdGIdGOdGUi0hOilHIdjyHUi0LAd&dL
 IdLOdLUi0iJMEdMIdMOdMUdNAdHNj8j1NEdNIdNOdNUi0QUAdQjpjDdQUOdQUUi0Sj7dSEd$dSOdSUi0DAdhkDEdTEkSdTIdDOd
 DUi0DLAdTLAdT&dTLIdTLOdTLUi0hydTSEdT$dTSOdTSUi0WAdWEdWIdWOdWUi0YAaw5~KOKdSirLjBMITi8dNAdi7LdTILdKkG
 dNGOUd<OUdWjBY)GdHUKdUNdIdhoMdATIhIGOKdJHirRjBBAdJILkSLdGkGdDkGdBHirKOK L%SidLAI:dMIT:i8:dNllTIL:dN
 GOU:dI:cug%APe!APe)APeY.APeSOUNAPeUNAPehK!APeiBGchKIKHEIcLUM IYEKcAPUN:c@ABF0undqipC",
 "kOBF4 w5p2khnhd$Xdn6dE?dkta@D7B0 rHJhrSE%G O-YEOcO-O-IcYO-(YO-k0YO-EOcU-YEOcU-I-IcYU-k0YU-OcEU-(EU
 -EOcEU-EcEU-OcI-YA-OcI-Yk0I-YEOcI-jhI-O-IcI-jYI-YUcI-Ic,AEA-(,AEA-Eb@D7CB J%GSE%G nV-nAqnqhp1onp1on
 -mpsLmpsLkksLkk-odsLn7sLqhsLquqHnCodqHod-p8nCnA-r6qHnL-p8nA-mp-onqHmp-qcqHsAqHYEOR!mGH-p8rwnAqtnVqt
 nCnVp1nLqtmp-kkqtn7qWonqWnA-qcqWnLp1mpvVonqWn7qWqhoynLoyrwmpp1kk-odp1kk-onoyr0oyn7oyqhoyquoyp8r0-mp
 cr0-rwmpcsA-nLcsA-p8n7-mpcn7-nCmpp1n7cqc-kkcqc-qua@FBhEpt^ sxFFdFIdFLdFFIdFFLdmmS TdSTa@FB13 ,M.kn
 ^ sxM. NOWeECHe!IdVEW NOWdM. XEHa@FB1D HEBREW ~YOD_HIRIQbnM JUDEO-SP)iR lfKAbsxYIDmY YOD YODiATAHb~
 sdih lZcWiS krdD;iEilKAFi3MEDdokMEMdhjHdTAVcsdihoZ$GNhC!_hTNlze$N:eDhuSHmjhTN:g$N:ckr_PATAHeQAMATSe
 MAPIQipT_DhuSHcoFh0D;ETh0HE_MAPIQcVAV_DhuSHcZlZh0@FB38 TETh0YODh0okKAFh0hcheEDh0@FB3E MEMh0@FB40 iB
 h0puh0@FB43 okPEh0hc@FB46 hyDIh0QOFh0hjHh0hTNh0TAVh0VAV_HOheipT_RAFEhwFh0PEh2sxkr heEDaqx~kr WASL
 A vxeqXipEHzFPEHzFBEijzFTTEijzFTEijzFTTEHzFVEHzFPEijzFDhQzFNhQzFThKHzFThKijzFDDAH;xhDAH;xhDULxhDD;x
 hJEHxhRREHxhKEijzFGAFzFGUEHzFNGOEHzFlA GHUNNAxXcRlAzFij_hQoWucgqXdGO;xXeqa:erqdDOixhBMEExXeqa:erqch
 Q B,REExXpYufucgnorZbojlzoWdn0crgvWctrvWet1smoWgn0ctSvWcqBvD:cxZoWfn0ckic^iaHvWcWASLAqR@FBD3 ~NG vx
 dqXdqa:drqcUxhOExhYUxhU_ufuccVEh9qXcrS OExXdYUxXcEzFUIGHUR KAZAKH rS vCu2gMAKSURA rqbsxhQ_uf_krucoz
 krrZozAEucozAErZozimucozimrZozUucozUrZozOEucozOErZozYUucozYUrZozEucozErZozEu2cUIGHUR rS hQ_uf_vCucg
 uf_vCrZguf_vCu2b~F,$ hQxXeqa:erqbsxhQ_ufttucoziW+2ozMoJozvC+2ozhQh0BEHysexqTEHysexq<EHxWexqlRstt9ci
 WxWclHtthWiWt9iK.yscjestt9hZDysi9Hstt9cZAHiVA!xWcnrxWcFEHysexqk9stt9exqKAF_krhWJxOehet9exqheysexqkv
 ysexqlAysexqijxWexqhQysexq<;_vTkrh0REH+5cvC+5clMDA_DlCT)hWo0T)hWnyhWDlChWo0hWvTkrh0hQ_uf_REHrZozZA!
 +2ozMoJozlA+2ozvC+2ozhQh0BEH_RyVxqTEH_RyVxq<EH_RyVxqFEHyZk9yZKAF_krhWhet9exqhevFexqkv_krt9clA_RyVxq
 vC_vTkrh0hQ_RyVvChWhQhWufttu2oziW+2ozlH+2ozMoJozijh0BEHysrCTEHysrC<EHvFclRstt9ciWxWclHxWiK.yscjesth
 WlHt9hZDysi9Hsth0ZAHvFcA!xWcnrxWcFEHysck9stt9hwF_JxOehet9m3ysrCkvysclAysrCijxWevTkrh0hQyseijhWuft
 w rqozijh0BEHvFrCTEHvFrC<EHvFrCSE.vFrCh6.vFrCKAF_het9m3iVlA+4rChQvFrClMDA_nyhWDlChWo0h0TAH_vCucehQh
 0A!yZnryZSE.yZh6.yZiWyZlRyZlHyZjeyZDADyZh6.yseREHh0SE.iVjeiVDADiVTAH_vCrZehQh0A!yZnryZSE.yZh6.yZiWy
 ZlRyZlHyZjeyZDADyZh6.yseREHh0SE.iVjeiVDADiVh6.ttu2eiWhWlHt9iK._ijh0h6.iVTAHvFiK.tt rqeiWhWlHh0h6._J
 xOi9HvFcZAHiVkr_nyT)rZfISOLATnFjWhY yJaqxsxRAHIMAHU ;LAAHcRADI ;LAAHU )He)HAAe)HUMe)HUMAAe)HUNN(S;L
 ;LAAHU oDI WA-A;IHcoDI AS-S;AAMcoDIM:coDIMAA:coDI AS-S;AATU WAS-S;AAMcQUDDISA $RRAHcS;L;LAHU oDI WA
 A;IHEE WA-S;hecoDAA AS-S;AAMi9BA,k4 WA-TAA;A(RAHIMAHUM ;LAAHjCHtttw qandeiWttrZglRu2gkvhWlH+4ekvtt+
 2giW+2glHh0lRtwynciWtw_hQrZgvCh0SE.stttu2elRst+2gvCrZekvst+2giWu2gJoJgkvrZwgcjestynekvtwrZhCE.st+4w
 gelR_hQrZekv_lH+2glHu2gkvrZwghZDst_vCrZelHvFwgi9HtwyngMoJghQrZcA!ttvFekv+4wggvCrZcnrtwvFgxKh0FEH_lH
 vFwgck9twstrZgMoJm3st+4gxKhWlRttu2glRrZelHvFwgekvynckvsttt+2gMoJghQrZelRstu2gkvhWlHtt+2gkvhW@FD92 l
 R_lHh0ijtwtt+2gkvh0lAst+4gvCrZelRvFwggvCrZekv_xKh0hQtwvFwgipH_lH_hQrZjCHtt+4gvChWlH_xKhWkv_xKh0lRtw
 _hQhWiW_vChWkv+5iK._lH+5cjest_hQh0h6.+6hZD+6m3tt+4ekviVhQst+4elR+4ekviVkv+6ck9+6clAstiVk9twstu2m3st
 vFcA!tw_hQrZhwF+6",
 "a@FDB8 qxsxlAttst qandckv_lH_hQrZm3tttwu2hwFtwtwrZm3ttiVlAttsth0lRst_hQh0iWttiVkv+6cFEHtwiVBEHstiV
 KAFtwtwu2cA!ttiVjetwiVSE._lH_hQrZclAttiV@FDCF S;AAMUHU ;AYNA(@FDF0 S;LA USh1AS KOR)hRSj2oYvxcQ;A+7c
 ;LAHh0AKB,h0MOHlCDh0S;AMh0RASOULh0oDEh0WAS;heh0S;LAh0S;L;LAkG oDE WAS;hecJ;LAJ;;OUkGaRI;obqxsxBISic
 LAH ,-RAHM) ,-RAHEEMiiBHA)AHU WAiaA;A(AZZA WA J;Lalfp6SE&mShJ8bSE&mS-10*6aypn2et5IC:ftEenPetKeuemwe
 rh:emkoVuOroeoQoVuO BRAKCETeuZELjr$Sa@FE20 tosxmkl1cqLbqBmnnD:dqLbownD:cqLbC%JO!>owbsxmkn3n0crvmn r
 1rvow r1rvC%JO!>ow:btFTITLOnD l1dqLaypkqh8 &AD#eEM lNe.:ekjkdeWAVYhWmkuieqLemkvseR?hWmkwF:eR?+3emko
 XuO:eR?+3emkqBmz:eR?+3ekbhWR?hWmkpG:eR?hWmkmxhWrdSESAMElzamx=ypmkw8erYlNh1l9kdaovkd:aWAVY:aoT=lNh1k
 jkdaovkd=WAVY=^ n2bt5IC:us@FE54 tKbnPbrhoeue:bEM lNbyJpWvsbrvmkwF:bR?hXpkoqtZbrpbkpoqpS-nXbsnoqvB:b
 nJS:b@FE68 wkbDOhxRoqP#C.T:bv2ATa@FE70 qxnyT) vxbTATWEEL_nyT)qRDlCT) vxbko FRAGlGbo0T) vxb@FE76 nyh
 0rqbDlCuccrqbo0uccrqblMDAuccrqbSUKUNuccrqb~nwucckr_oGoW+2gqXeufucgqXcim_ufucgqXckr_nwoiucgqXchQ_ufu
 cgqXgqa:grqckrxhBEHzFTEH M,BUTAxXdISOLhYD:dqXdqa:drqc<EHzFlRzFiWzFlHzFD;xh<;xhREHxhZA!xhSE.zFh6.zFj
 ezFDADzFTAHzFZAHzFA!zFnrzFFEHzFk9zFKAFzFhezFkvzFlAzFijzFimxhvCxXchQucdqXdqa:drqbsxhe_kr_oGoWucgoGqD
 qXgufucgufrZgnwoiucgnwoirZfISOLhYD:fqXa@FEFF Z#O WID<xA@FF01 FjxWID< ueoeQUOTml:bpkoqDOhxR:bP#C.T:b
 tZbuKbyJbrpbkpoqn2bpS-nXusr5bzdbnPbtKbsnoqnJS:bvB:brhoev2ATbxplUpWw8bwkboQw8bxDbkjkdbvObxQlUpWvsbvq
 boQvsbmnpWoVuibrYl1WID< vLtEpWpGrobrvvLn2bs1 qCh8c~WOd^ AeIeUeEeOejXYUeYOeTUbs1-tPiFlTh1Slboes1 ~Ad
 mFEizjKKIdKUdKEdKOdSj7IdSUdSEdSOdhkTIdTUdTEdTOdNj8IdNUdNEdNOm1HIdHUdiljyiJMIdMUdMEdMOdhIYUdYOjAdRId
 RUdREdROdWj8cmXh1SlbpHm7-mXEDh2rHpxc~oddnCoddod-kkdnVdnV-n7dnV-mGHdondnCondnAdnA-oddnA-nLdnA-mpdnA-
 kkdnA-qudnA-qcdnA-mGHdnLdmpdnCmpdmp-kkdkkdnCkkdIEhrdn7dnCn7dqhdr6dqudqcdmGHd@FFC2 AdiGhIYiGEOjf@FFC
 A YEOdYEizWAdWiGOEd@FFD2 YOkUWEOdWEdWIdYUd@FFDA EUdYIdIa@FFE0 FjxWID< C.ToqPlb:biQ:bowbBROK. B,bY.o
 qW%:a@FFE8 l1WID<ndS olrbbwRbqE:bvIbsm:boXocboVoSa@FFF9 !T#kd, )iQp6)itRcsyjCRM!AinaOBJECTikoLlG t7
 a+2"]

end TypedTemplate.Text.CharName
