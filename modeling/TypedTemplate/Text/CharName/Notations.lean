/-! Names of the signs of music, mathematics and games, and of pictographs. -/
namespace TypedTemplate.Text.CharName

def notations : List String := [
 "hAD0hEBYZ)T!E r7qI P$LIdDASEIAdupdOXEIA EKF%ITIK%eDIPLIdV,EIA EKF%ITIK%eDIPLIha<iMIdSYRMATIKIi8RAK
 LITIKIdYPOKRI$SeDIPLIdKREMAhmdAPESO EKF%ITIK%dEXO:dTE&IAsThkAPOhNOFOSeDIPLIdSYNEViJ<IhkOLIG%tNdGORG
 %:dpMdCHAic%dVA<YdIS%tNsT:sTTllSAXIMAhkP,IitNdhtVRkBAPODEXIAdOXEIAItNdV,EIAI:dAPOD#MllAPO<EiJKLASiJ
 REViJPIASMAtNdT!AGiJ)Ahhi7SiJSEISiJSYNAGMAtNeMhP htVROUdOYR)ISMAtNd<EiJ&MOIdDYOdhhAdTj0#AdKRAjaAhkA
 PESO EXOmVdF<ORAtNdIMIF<ORAdTiYIK%tNhaTAVA TiYIK%dPELAST%dP$FiM%dK%TEViJitREVMAtNjAPISiJP,k4&SMAtNi
 8RAKLITIKI:dICHAD!dN)AdPhPSiJK%TEVMA ;LOdTiYIK%:dhNAGGISMAhkGR%<ISMAhkIS%mVdOLIG%:dOXEIllPhPhmdKOUF
 ISiJPhPSTOKOUFISiJKRAjaOKOUFISiJPELAST%mVsTTAmV )OsTh9YP$LIdAPOhNOFOSmVdAPOhNOFOI SYNDESMOS:dYPORRO
 IdKRAjaOYPORRO%dELAFR%dCHAicIdMIKR% IS%dV,EIAmVdPIASMllP$FiM%:dOM;%d)TIK.OiJLYGISiJP,AKLITIKImVi8Rk
 4&SMllET#%iARk4&SiJKYLISiJ)TIK.OKYLIuT%mVdEKhNEPT%dSYNAGMAmVdSYRiJitREVMAmVdEPEG#iJSEISMAmVdXIR% KL
 AuTOP$FiM%dP$FiMOLYGIuTOLYGIuTOP,k4&SiJP$FiMOP,k4&uTOSYNAGiJP$FiMOSYNAGiJGORGOSYN<ET%d,GOSYN<ET%dET
 #%:dOYR)ISMAmVd<EMATISMkBESOeEXOd<EMA APLOUNd<ES KAI APO<EShaTAVASiJ.DOF%%dYF. KATOe)OdhtVROSdKLASM
 A )OkSPLItNdKRAjaA:e;LOeNEOdAPOD#MllAPLIkSPLIdhhPLIdTEi1PLIdKOR%ISd&IMMA .kBCHR%OUeDYOj5R%%ehh%:eTj
 0,%:eIMISEkBCHR%OUdGORG%mV )OeP,EhmGM.% ,iM#AfDEXIAkSGORG%eP,EhmGM.% ,iM#A KATOg)OfDEXIAdhhGORG%d,G
 %dIMIDI,G%kS,G%dAGOGIjwLI ,GIe,GOT#Ie,GIeMEhhAeME$eGORGIeGORGOT#IePOLI GORGIdM,TYRIA iFTkBIitSe;LIh
 WDEYT#OS:e;LIhWhhTOS:ehhF%IASeThPRTkBIitSf&GETOS:ehWPjHIOS:dISAKIA TELOUS Ii7MATOSdAPOhNOFOIh9F)#O$
 S TEi1F%IASeM%OF%IASeDIF%IASdM,TYRIA V,YS IitSeiFTOV,YS:ePjHIkBThPRTOS:dGOR<MIK% N APLOUNfDIPLOUNd.
 ,XIS KAI F<ORA VOUdIMIF%%dIMIF<OR%dF<ORAtN DEYT#OU IitUeDIAT%IKIiAfN)AeNAkBIitSeDIAT%IKI DIeSKLIR
 % DIAT%%:eDIAT%IKI KEfZOfNI KATOg)OeM;AK%j5iYA DIF%IASgM%OF%IASdFHinxGVA$SdF<ORxGSYNAFIeN.)OdCHRO
 A ZYGOSeKLIT%eSPA<IdF<ORA I YFE$S ThPRjaORI%e.,M%IkB)TIF%IAdYFE$S hhjaORI%kSE$S:eThPRjaORI%eAPLI DY
 O DODEKATAeM%nmMkBTj0#A:eDIiCMMkBEX:ehhiCMMkBOKTO:dYFE$S APLI DYO:eM%nmMkBTj0#A:eDIiCMMkBEX:ehhiCMM
 kBOKTO:dG.IKI DIE$SeYFE$SkSASTOLI APLI MIKRIfMEG;IeDIPLIe<ESEOSd$M)$S:fDI$kZfhh$kZfTEi1$kZe,SEOSfDI
 $kZfhh$kZfTEi1$kZkSGRlC GGkSFTOGGkBOUdhmGiJ,KTIKOiAeVOUmhDIeKEeZOeNIsTTAmV MESOsT+2sTTAmV KATOsTh9K
 LASMllGORG%mV:hAD1hEr7qIqK B,kdcricqXi6V#SEh0lNl6cnW:cmkREPEATmvcR?h0REPEjLh8ShZL SEGNOhZ CAPOiKGNO
 cCOD(REPEAlgFIGUREhJ2cF#MAhkn0cBhf<pHCAESUR(BRAjUBRjjk1%E-nHhtFFchH-kd:cmo-kd:ckh-kd:ckm-kd:c$X-kd:
 c$X-hN>FREToEckh-hNplG C&FeOTTAVA ;TAfBiq(C C&FcF:eOTTAVA ;TAfBiq(DRUM C&FhJ1hzD129 q2& prEikSTcqBh
 7RPdFLhSFLjLUPdkfcNAjm; UPdkfhC,P UPdkfcqQ nOh7RPeFLhSkLM% jaEcCUT:cOTTAVA ;hkBiq(jDNDICE$MA ;hkBiq
 (MULTIikSTcWHO&:cl1:cqQ:cE?H:cqr<:cpN-SEC%D:c$XTY-kh<:cud p4-E?H:cXtXckp:coS X:coctX mxemrcrVtX hUm
 xfmremkmxfmreoQmxfmremumxfmrehUoQmxgmrcMO%tX mxemrcrV-nUtX mumxfmrcuitXcVOID:ciQEks mrcNjxtXcCLUST#
 tX mxemrcnfcWHO&lQEcl1:cqQ:cE?H:cqr<:cpN-SEC%D:c$XTY-kh<:cud p4-E?H:ctoSTEMdSPk3HGES)G:dTREMOLOhJ2c
 pKh1TREMOLOhJ2ctoAUGlGp6h8dFjHhJ4ipG! BEAMc.D:ipG! jkc.D:ipG! SLhn.D:ipG! PHRAjd.D:ctoACC.TdhtCCATO
 lIUTOdhtCCATIS$MOdM,CATOdM,CATO-htCCATOdACC.T-htCCATOdLOUREc,PEGGIAiuUPdkfctoDOITdRIPdFjrdSME,dB.Dd
 qBT%GjppO:cR!hiZ)DOiiBITOcZcPI)OcMEZZOchiTEcChjC.DOcDEChjC.DOciCCElQE nkeNO:cTRclLcpgl6clL nkdhss
 C othJ8dot-10hlHAUPThmMMjMEB.hmMMEcqehmMMEcpv nkctomuBOWdUP:dH,M%ICdSNAP PIZZICATOcPED;mwdUP:cn3PED
 ;:cGLISS)DO UPdkfcn5pKNAILShZMPd;LcMAXIM(lT(BREVIScm7BREVIS mxdmrcM!IiJmrcm7M!IMA mxdmrcFUSA mxdmrc
 lTA rIAikSTdIMrIA:cBREVIS:cm7BREVIS:cM!IMA:cm7M!IMA:jCMPUS rIUM CUM iFp9E rIAgIMrIAgrIA DIM!Uky-1dI
 MrIUM CUM iFp9E rIAgIMrIAgIMrIA DIM!UkyhJ2cCROiyGREGORknC C&FdF:cqZBcVIRG(PODATUScCLIVIScSC)DICUScC
 LIMACUScinCULUScPORk3TUSdF&XUScSC)DICUS:cinCULUSikSUP!UScPES jvPUNCTIScKIEV) C C&FdqeoOdokiQEdk3ITA
 TihmwdWHO&lQEdl1:dqQlQE STEM kfgUPdE?HlQE STEM kfgUPdFLATmvcSORIcKOR%hAD2hEpLVOC;lQp6ojhJ8doj-10*Ed
 oj-50*4b!hNUlG;lQp6ojhJ1doj-4i0oj-7i0oj-11*3doj-17*2doj-23*4doj-29i0oj-32doj-36*4doj-42i0oj-45doj-4
 7*7atopLr7 hhSEMEdTEi1SEMEdP.TASEMEapLr7 &IMMAhAD2E0 MAY) o5; Z#OczRczrhAD3hEM%nmnpE,<aDIiCMnpHEAV.
 LY:cHUM):cE,<LY HEAV.dHUM)cE,<aTEi1iCMnpovcFjxqScMkEDcB,RI#cKEEP>^cC%i1RIETYcASC.TcOPs9cBR)CH>hvcDE
 FECTihNj0lEDiMORkycDihRG.jUYhvHFULNj0c!ChfjdP.Ei1kyi6ixcC%TACTcHjF>lVcWAITlOFOLhglOADV)jURE&AjdhjiM
 )jUEAjdJOYcC%T.kyc.DEAVOhnDUjkScCH)GEcDECI$V.j0cBkuhjOLUkycPjjlO&GI%clt.j0cK!hTPcGA<#lOhN.G<cPURITY
 cFjxNj0i6l4NjULAWlEMOigi6SP%jdGO>iuMEk1.COUNT#ScSTOVEcGhfTNj0c.mslGcPiv#NcRITU;cFL?cVASTNj0lEWASTlO
 C%htNCYcprEcET#NITYckYTYcDIM!iRlGcqUntcGU,DEDNj0cGA<#>!cMiqlOACCUMUp9cEMkFLiRlGcDOUBTcWATCHc$NKlO!N
 #cDEP,jmEhZRK.lODIMMlOEXHAUhm%iKV#)jUSj2PhucH,DNj0cmJ&kycltUREcFAILUREcAGiCVmlcmJLI)jU% lpV#GEcDIFF
 ICULjkScLABOUkicFOST#lB@1D360 COUNT>ROD kYT p2zTmRS p2zTavLT;LYmw %EwinhaT;LYmw %EckmhAD4hEw0BkurUl
 UcuzwllUc^ A*6mUkT I*11bBkuwllUduzqVrUAmU49E CdDmU4A2 GmU4A5 JdKmU4A9 N*3mU4AE S*7c^ A*3mU4BB FmU4B
 D H*6mU4C5 P*AbBkuqVrUlUduzFRAKjm rUAdBmU507 D*3mU50D J*7mU516 S*6hzD51E uzvv rUAdBmU53B D*3mU540 I
 *4mU546 OmU54A S*6hzD552 uzBkuFRAKjm rUlUduzuA rUlUc^ lUcBkurUlUd^ lUcwllUd^ lUcBkuwllUeuzM%Oo4 rUl
 UcuzIT;hR^ s8IeJj6D6A8 BkurU;Pzsjy<hPqId$GiJTjPxlnEcNABL(^ ;PzszQnEcPxbcEpMqIc<hP:hwPPA:cPHI:ckM:cP
 I:bwl;Pzsjy<hPqId$GiJTjPxlnEcNABL(^ ;PzszQnEcPxbcEpMqIc<hP:hwPPA:cPHI:ckM:cPI:bBkuwlztIekMe<hPqIe$G
 MAeTAUyWdNABLAd^ ztIekMeok$GMAe:eTAUyWdPxbdEpMqId<hP:haPPllPHI:dkM:dPI:buA BkurUztIekMe<hPqIe$GMAeT
 AUyWdNABLAd^ ztIekMeok$GMAe:eTAUyWdPxbdEpMqId<hP:haPPllPHI:dkM:dPI:dwlnafBhPfGlCfigTAfEpMfZhPfhPf<h
 PflnfKAPPAfheDAfMUfNUfXIfrJfPIfkMf<hPqIf$GMAfTAUfqgfPHIfi7fP$fnEeNABLAe^ nafBhPfGlCfigTAfEpMfZhPfhP
 f<hPflnfKAPPAfheDAfMUfNUfXIfrJfPIfkMfok$GMAf:fTAUfqgfPHIfi7fP$fnEePxbeEpMqIe<hP:eKAPPA:ePHI:ekM:ePI
 :bBkurUDIGlCc^:hzD7CEzebvvzebuAzecBjFunezTbM%Oo4zea$GNWRIT>kl-FiM nuvt1opCUP:opOV;:uj:ur:xBlxvt2ulp
 Anvh0p7wKdCUPPEDdpbehgopoS p7H!GExBpFvt2xBqClxewKSepbdUPh9pb qCUPdqCt8fp7lxfpF:fCUPPEDfpbemtEDvt3ul
 qClxofnucp7lxofpFdqCo7vt3xBqCrn pAlxelx pArnepAlxepb SPhfD u4dhUqCpb+2gpAt8dpb qChUu4dqChUSPhfD vye
 pACUPPEDfoSDfkgEDfpbcpAr3 p7qCrncp7qCt8 u4gl4 t8gl4 lxcqCpAkgh1p7hsvRkgh1pF:dqCt8 pb u4emtEDhWt8 vy
 fCUPPEDh0qCpACUPPh1p7hsvRCUPPh1pF:cqCpArWnu:gpbcvRmzD hv qCUPf!+2",
 "hAD83CmvWRIT>kl-FiM vRrWqCUPdqCpAt8 pbfmzD hvgcqCpAmzD hv p7UPgp7mtEDfp7hsvRkgh1qCpbopFLjLnSpKSelx
 epbet8fSPLITopCLAW nSpKS t8ulnSpKS t8 lxuj nSpKS t8opFLjLxYcm4hcxY nSlxcm4+5cxY:cm4iVxY vyopChUxYfk
 zuj+4opOV; xYopFLjLxY pbgu4gNO o7ccr3iALM FAC!GScm4cu4cm4h0pAlxsgcSPLIT vRl4doveu4glxdpQopCLAWcu4cN
 O o7cvyopkg lKICUEcopChUkzccmyu4ch0myNO o7ch0myvyc+2oplKICUE kzcopoSopOV;cu4cNO o7cvyuj kzdvycc^cmy
 u4ch0myNO o7ch0u4 TOUCH>nudr3 qCkiurxBqCkivt3uj+3ur+3uj pQxBqCR>lxft8uj+4ulpQ kfeRIPP& rnfnZDeO<#Sq
 SDdhspAnv+2vt2opOV;+2ur+2ulpQ wKdlxdTOUhKS o7d:uj+2ulpQ nu:uj+3ur pQ vRvRhvgo7ulpQ nuvt2uj+2ur+2xBq
 CpQvt3ujhckiur p7qCpQxBqCmt:vt4ulR>kfuj R>muvRkg pFur R>muqCpAp7mtulR>UPdwKdpQvt2opOV;+2ur+2ulR>pFe
 t8ewKSdnudo7opkg+2xBuqvt3oplKICUE p7uq %opkg p7uq hvf!fnvopChUp7uquj+3ur p7uq hvfulqCkfuj pFulqCUPv
 t2ulqCwKdhUu4opkg qCo7ulqCpApQd:dki:vt3oplKICUE qCuq %opChUqCuquj+3ur qCuq hvf!fopoS qCuq lxopCLA
 W qCuq t8gl4opkg qCuq t8 hvg!guj p7pbxBu4uj+3xBu4 pAsFgt8glxfnu:fBO<:fp7H!GEehiW,D p7rnglxekgelKICU
 EenZ pA!l4opCLAW+5xBpAnZ pAnveoSopChUp7o7ekzuj+3emsee^ur vRhve!eopFiM:dm4dl4 sFet8elxsgdr3 p7pFeqCk
 ieuqdnv kqpKSdl9h9nv mo:ekh:ornSwKSccm4bTOUCHyOiCSPyOhNIKEyOBRhqyORUByOSURmCqIScr3bSQUEEZE msqKc^:c
 ms q2&c^:iKQU.TI;bFk6K msqKc^:cms q2&c^:iKQU.TI;bSQUEEZE Fk6K umbsK-H!GE hUmumse^dSEQU.TI;cpVchUmuu
 m msf^cl4 iul4 SCISSORSbxUpK C%TACTbxTh2xUrErnycduCcqBrnduCdumeuCcmtcqbrn sKduCdumeuCipNDxScpGxSdsD
 coBxScj3xScq5xScPEAKSxSbi1VELu7 sDu7ydsDutydh7KlO,M me;qKeoTepObsK-t3AkIxSdmsSTcTOW,DSxSdmsSTcr3 Ak
 IycdTOW,DSycbxTqK rnycduCcqBrnduCdumeuCcmtcqbrn sKduCdum sKeuCipNDcpGxScoBcj3xScq5xScPEAKSxSbi1VELu
 t sDutydsDu7ydh7K!GbxUnZ qQycdl1-oSycpC-qQqS ^fp3cHUMPxScmOxSd^ oTclu nZ qB^fp3fmseqb^fp3fmscnZ <
 . rncnZD mt ^ep3bsDu7qKcoTct2bxUh7KlOnZtMFR%T W;LcHUMPhcmOhcluhXsDu7qKhcoThcumhXxUnZtMhKSTcHUMPh0mO
 h0luh2sDu7qKh0oTh0umh2xUlu t3PA< ^fp3fmsbxT nZy4fmscHUMPy4 oTfms:f^ pOfms:cmOy4qKfms:f^ oTfms:cluy4
 fmsbsDutqKtMCEILlOoTh0umh2xT nZtMFLOkR^fmscHUMPtMFLOkR^ oTfms:fqb^ pOgms:cmOtMFLOkR^qKfms:f^ oTfms:
 clutMFLOkR^fmsbsDutqKtMFLOORcoTh0umh2xT nZxSdmsSTdkLB!EDcHUMP ^cmO:clu SNAKEd^dmsbsDutqKcoTcumbxT h
 7K>sUbxU,MqS ^qKep3:e^ oTep3:bxT ,MqStMW;L ^qKgp3:gms:g^ oTgp3:gms:bxUWRiMqS FR%TqKfoTbxT WRiMqStMW
 ;LqKgoTbxUpKqSSqKeoTbxT pKqSStMW;LqKgoTbDYNAMICtx ^dmscFASTcShgmRjdRELAXEDc$MULT)EOUSdumcEV#Y O<# j
 aEciCDU;bkscRIMcxUrndTILTcxT rncxUnZcxT:csKqSbmC pnI% s9 NOiHhiW,D TILT!GfhUkRkfgkRmuTILT!Gbj4BiX
 S rn UPdqsdkfbDhfMY j4BiXS qs:dmuqsdUP:dqs UPbhiEks qscC%TACTcrKDbj4S kzcSQUEEZEDcltEDbj4 BL!KqKdq2
 &bj4S n3kzcWiS:cn3ltEDcWiSN>sKbj4 W!Kbj4LhBES hskfcFLUTT#!Gsju7 rndoTdumsjut rndoTdumsju7 nZDsjut:s
 ju7 CIRCL!GbhKEKS PUFFEDcqsiiCKEDbT.iHhKEKS lkdpFdhgbE,SbNOiHqscC%TACTcrKScWIGG&SbjS Bhg>hviiCK>!cB
 kj^ sDSiiCKh2Bhf< !H;EcEXH;Ebnt qUqssgdC%TACTcSicEdrKDdkzcFiXNdrKDdkzcmyoSsgdrKDdOV;erKDeYAWNdk3Tmz
 erKDeYAWNcKISSsgdrKDmRSEsgdSUCKEDbjrS PhjSh1TOGE<#bjr ognsnTcoansnBbnt pGScrKSqKdoTbT%GUE hmCK>hv F
 ,ck6K>jrScTIP r3:dTOUCH>!l4 ntc!l4 ntikLAXEDcMOVES AGA!STj5EEKcov hmCK>hvd!l4 ntbTEE<csKc% T%GUEesK
 djrSesKcBITE jrSbxUJAWbxT:bNECKbHjSbEXCITElGbiUULD# HIP SP!Eds9SbW;LPL)E iUULD# HIP MOVEbFLOORPL)Eh
 XiUULD# TILT>FiY WAiMbinSOu7 rn hNETCHcnZD B.DbinSOut TWiM!GboaBODY TILT>FiY HIP JO!TSbLIMB kLB!mlc
 pahJ6bpKbLOCmlu7 o4bLOCmlut:bLOCp6HE?cWID<cDEP<cks NECKcinSOcLIMBS DIGITSbn2ustKbnPbuij6DA9B FILL s
 O-2*4j6DAA1 sD sO-2*7csO-10*6hADFhExQF.Grs_hhLLdsoqVGbxolLl6w7soKbxoL_kFTw7&ZH_wArjY_kFTdso.GrjR_mm
 &GmjwAdTtphX~tU Ck6Knih2vjib_qBB,gB,mjlKrjTqkb~spvJh0hNEThKD Ch0^ rUqJKw7L_mZkgdDEZHrs_vadL_kFTlmh9
 .Gnih9qJRhdR_mZkglmh9Tibrsnih9EZHhdDEZHrs_tU:dIvAlmh9Onih9TibrshdChdS_lKhAE0hEtoGjHOLIThR~zOjzE00
 8 ZEMLJAzwjzE01B yzjzE023 YUd^ YUSjzE026 zJTAhAE1hEjEAK.G PUixUE HM%G ~MAehyeNTAeTAeHAeNAeXAeNKAeCA
 eLAeSAeZAeNCAeNhyeKAeDAeNjXNRAeVAeNTXAeTXAeFAeRAeQAejXNQAePAeXjXNPAeDLAeNPLAeiWeMLAePLAmhRRAeAeAAeI
 eUeOeOOeEeEEeWjzE130 nRBdnRMdnRJdnRVdnRSdnRGdnRDd$GNnppUf<!GfLOCmlf)IM;fpgEBRhYeXW XWdtHpa.#jzE140u
 nezTjzE14E LOGnm NYAJdrWCAhAE290 TOiu~P(B(T(D(K(G(M(NpfSpdY(W(J(H(R(L(Iv3IUv3UcEv3EOv3OcAEv3AoURIS>
 m5hAE2C0 W)it ~A((B(C(D(G(Y(hocL(N(P(T(<(FnglaJ(Z(W(V(K(OcAUcR(M(hFcH(EckJG(UcLLH(hyci1c%GcA)Gc)Gcl
 O%c.cA)cNY(U.cYIHbnOThsTUPNIcKOIcKO!Ibzdj6E2FFkDUNob@1E7E0 xLHHY(HHYUcHHYIcHHYA(HHYh4HHjhHHjY@1E7E
 8 GURhu HHW(HHk5HHWh4HHWEhzE7h1GURhu MWIdMWh5@1E7F0 QWIdQWh5QWEdBWIdBWh5KWIdKWh5KWEdGWIdGWh5GWEdFWI
 dFWh5PWIdPWEEhAE8hEM.DE KIKAKUI tHMka KmA02 jKM003 KUhL65 KlW095 KEhL76 KOOhL48 KlY79 KUAhL04 WmA0
 5 WAhL06 WUhV26 WlW118 WEhV14 WOOhL45 WlY94 WUIhV43 WEmA61 WVmA49 WVAhV39 WVEhL07 M!hL08 M)hL09 MUN
 hL59 M.hL94 M%hV54 MU)hV89 MU.hL10 BmA11 BAhL12 BUhV50 BlW097 BEhV03 BOlY38 BOhL13 mA14 AhL15 UhV6
 3 lW1hEEhV65 OlY47 lY37 EIhV31 !hV35:hV95 )hV78 .hL19 $hL20 SAhL21 SUhV62 SlW116 SEhV36 SOOhL79 SlY
 96 $AhL25 LmA26 LAhL27 LUhL84 &EhL73 &hL54 LOlY53 LlY10 mm&hL16 DmA17 DAhL18 DUhL89 DlW1jRDOlY81 DO
 hL22 TmA23iahL24 TUhL91 TlW055 TEhV04 TOOhL69 TOhL28 JmA29 JAhL30 JUhV57 JlW113 JEhV60 JOOhL63 JlY7
 5 lT:hL31 YmA32 hIM033 YUhV09 YlW0jRYEhV41 YOlY21 YOhL34 FmA35 FAhL36 FUhL78 FlW075 FEhV33 FOOhL8
 8 FlY97 FUAhV01 F)hL37 N!hL38 N)hL39 iBhV17 N.hV69 N%hV76 HmA41 hOM186 HUhL40 HlW096 ilM042 HOlY4
 0 jyM083 HEEIhV28 HOOUhL53 H!hV30 H)hL87 HUNhL52 H.hV93 H%hL46 HU)hL90kDGmA43kDGAhL82kDGUhV15kDGlW1
 46kDGEhV56kDGOlY20kDGlY59kDGiOM127kDGUAhL86 mmNGGEhV06 mmNGGOlY83 mmNGGlY55 GIhV11 GAhV68 GUhV90 Gl
 W166 GUEIhV67 GU)hV84kD.hL57kD%hV77kDU)hL68 PmA99iAhL50 PUhL81 PlW051 PEhV02jwOhL66jwhV45 MBmA62 MB
 AhV22 MBUhL47 MBlW188:hL72 MBEhV72 MBOlY74 MBlY87 MBUUhV61 mmMBEhV05 mmMBOlY42 mmMBlY32 KPmA92 KPAh
 L74 KPUhL44 KPlW108 KPEhV12 KPOlY58 KPlY24 GBmA56 GBAhV48 GBUhL93 GBlW107 GBEhL71 GBOOhL70 GBlY71 R
 AhV23 NDIhV29 NDAhV25 NDUhV91 NDlW119 NDEhL67 NDOOhL64 NDlY52 NJAhV92 NJUhV49 NJlW134 NJOlY82 VIhV8
 5 VAhV51 VUhV73 VlW085 VEhV44 VOOhL77 VlY64 jENhL58 NY)hV70 NYUNhL98 NY.hL60 NY%hzE8C7 p2zSctoqYlSS
 eT.SeqfSercSeT.:eqf:eicLI%ShAE9hEADhe wQ;IFdDA;Ii3irMIIMdBj7!jEIYilPEdBilRAjfFAdIizDhOYilimdiBhaFdh
 IUdJIIMdi7m1QAAFdGA",
 "hAE919 ADhe wQNhITUdNhOVrDBEdZ;dKPOdh7w7;IFdDA;Ii3irMIIMdBj7!jEIYilPEdBilRAjfFAdIizDhOYilimdiBhaFd
 hIUdJIIMdi7m1QAAFdGj8hITUdNhOVrDBEdZ;dKPOdh7b;IF pa.#bnl:bGEM!mloenwbtd sObGEM!hYh2mHAbNAS;IZmloe@1
 E950zi@1E95E qa uepHrh:hAEC71 !DhR$YAQ qYzSlIdzaETYdzzi3KHi3hFNcLAKHpHqYK,ORhaROR)dPREFIXh1zTcoLHjF
 #cvrqQel1dwCcRUPEEpHqYt2 %EehHeT. rcct2 LAKHoo@1ED01 OTTOM) $YAQ qYzSlIdzaETYdzzcM,RAT)ct2 qYyf.eE?
 ekteT.enSqfe$X:ekqrceT.:cvrl1e$X<hAEEhEqxw0kripHclRhZLhzEE05 imcZA!ciWi9HchQhwFm3ckvclAiK.cA!cFEHcj
 eck9i6HhCE.jCHc<EHclHc<;hZDcZAHcnrcs8BjQlAdFjQk9hzEE21 qa BjQlRnY24 ijnY27 iWnY29 hQhaFi3MdyknY34 x
 enY39 DADnY3B nrhzEE42 koh1lRnY47 iWnY49 hQnY4B henY4D lAdSE.dA!nY51 jedk9nY54 h6.nY57 lHnY59 DADnY
 5B nrnY5D s8lAe@1EE5F k9hzEE61 hNEThKD BjQlRnY64 ijnY67 iWdTj1hQhaFnY6C yknY74 xenY79 DADdZj1nrds8B
 EHe@1EE7E FEHhzEEjRmOh1krdBjQlRdD;dijdimdZA!diWdTj1hQnY8B hedykdRjQxed<;dDADdZj1nrhzEEA1 vv BjQlRdD
 ;nYA5 imdZA!diWdTj1hQnYAB hedykdRjQxed<;dDADdZj1nrhzEEF0tD kvst_TATWEELdiW_D;kw0hEMAHJ%G TI& mL W!D
 cn8:clD:co9:cmNDRAG%cGRE.:cmx:c%Eket7zk%EkeBAMBOOzkkcOFqSzkPLUMcORi7DcBAMBhMCHRYS)<EMUMcSPkiiiMM#cA
 UTUMNcW!T#cJOK#clVkw030 DOM!O TI& tq:ctq-00xJ1xJ2xJ3xJ4xJ5xJ6-00*6csqlVcrb-00x61x62x63x64x65x66-00*
 6kw0A0 PLAY>C,D lVcACEkeSPADEzv@1F0B1 ACEkenKzvmNJOK#hzF0C1 ACEkeqTzvoXJOK#hzF0D1 ACEkeCLUBzvoVJOK#
 cFOOLcTRUMPhJ8cTRUMP-10*Bkw100un tEcn2b%E:bhH:bmo:bkh:bkm:b$X:bn6:bE?:bkt:aD!GBjLrWuAunbs4hDrWZ#O_n
 kbvnoRbDOhxRmv_pPID lVnkawPxplUawFroh1xpSarWIT;hRxpCfRbCDbWZaCOPYkbrXs0xplUbHVbMVbSDbSSbPPVbWCas4 r
 WxplUar4MCoqMD:bMR:arWCCbC_pPID lVnkbHUM) FIGUREas4 s0xplUamth1s4 s0xpPas4 s0ICcPngABcWCaqZDJas0CLb
 COOLbFREEbIDbNEWbNGbOKbSOSbUP_ueoeVSbpEDbSEC%D SCRE.bkqKbkh:bE?:bkm nM %Ebn6h2p4-kqnM hHb$XTY Pbu
 d p4:bxQDbHCbHDRbHI-hjbLOSS&SSbSHVbUHDbVODaMASK WORKqIkw1E6ikGI%; tYqI ~lUaqZtPHOKAas0s1 KOKOcSmBF2
 10 y5624BuY5B57uY53CCbs1 DEby54E8CuY591AuY89E3uY5929uY4EA4uY6620uY7121uY6599uY524DuY5F8CuY518DuY65B
 0uY521DuY7D42uY751FuY8CA9uY58F0uY5439uY6F14uY6295uY6355uY4E00uY4E09uY904AuY5DE6uY4E2DuY53F3uY6307uY
 8D70uY6253uY7981uY7A7AuY5408uY6E80uY6709uY6708uY7533uY5272uY55B6uY914Dkw240 wFroh1y5672Cft5-4E09ft5
 -4E8Cft5-5B89ft5-70B9ft5-6253ft5-76D7ft5-52DDft5-6557kw250 rWt5 ADV)ThucACCEPTkw260 nUEDvPFUdLUdiUU
 dXIdiZ)GXIdCAIkw3hECYCL%EaFOGGYaqUslaN?_l5SaSUNRIiHnssSSbaCITYSCAPE jLDUSKaSUNSETofBUILD!GSaRA!BOWa
 q9 jLN?aoC luaVOLC)OaicKY kIaE,< GLOBE EUROPE-AFRIC(AM#ICAScA$A-AUhN;IAaGLOBE_M#IDI)SaNEW MO%rXWAX>
 sW=oP qQ=WAX>GIBBOUS=Fjx=W)>GIBBOUS=LAST qQ=W)>sW=sW MO%aNEW MO%_nIoP qQh3LASThDFjxh3SUN=Ghg>l5aiUO
 Tp5<#MOMElsoXDROP&TqMSUNcn5^ CLOUDipH!D:pYRA!ahcSNOWcL?NlOinNADOaFOGaW!D Bhg>nIHOT DOGaTACOaBURRITO
 ahKSTNUTaSEEDLlBEV#GRE. TREEaDECIDUOUSlX;M:aCACTk2HOT PEPP#aTUjrahKRRY BLOSSOMaROSEaHIBISCk2SUNFnBa
 BLOSSOMaE,keMAIZEcRICEaH#BanS&AF CLl9aMAP& &AFaF;&N:a&AF FLUTT#>! W!DaMhqROOMaTOMATOaAUB#G!EaiCPjTM
 EL%aoCMEL%aT)G#!Ea&M%aB))AaP!EAPP&amNAPP&aGRE.lXE,aPEixahKRRIjThNAWB#RYaHAMBURG#aSk6EkePIZZAaMEjL
 % B%EaPOULTRY &GaRICE CRjj#bnxCOOKh1RICEaCURRYlm:aSTEAM>BOWLaSPAGHETTIaBhfDaFR.CH FRIjTROASlgSWEETj
 wTATOaD)GOaOD.aShqIaFRIh1SHRIMPamZ CAKE_SWIRL DE$GNamd ICE ChfMah7Vh1ICEaICE ChfMaDOUGHNUTaCOOKIEai
 tCOLhY B,aC)DYaLOLjrOPaCUl5DaH%EYjwTanWCAKEalxO j3aPOTkeFOODaCOOKlBhiKmjKNIFEaTEACUPnihv kl&aSAKE B
 OTT&mjCUPaW!E GLiqaCOCKko:aTROPli DR!KaBE# MUGaCL!K>BE# MUGSaBABY BOTT&ahiKmjKNIFE_PLhYaBOTT&_PkQ>C
 ORKaPOPCjWaRIBB%aWRAPPh1Phj.TaBIR<DAY CAKEaJjj-O-L)T#NaCHRiMMAS TREEaFA<#j5RiMMASaFkEWORKSaFkEWOR
 K SP,K&RaB;LO%aP,TYjwPP#aC%FETTI nxT)ABATA TREEamth1FjHSaP!E DECORmlta DOLLSaC,P hNEAM#aW!Dj5IMEaMO
 % VIEW>C#EM%YaSitOL SAThKLaiCDUp6CAPanK_TIP % lpkbaBOUQUETkeFnBSaicIT,Y MED;aREM!D# RIBB%ar7 kWoE_J
 jjSaSTUDIO MICROq3&VEL SLiSRaC%TROL KNOBSaBEAMh1ASC.D>r7lQESbDESC.D!G=FILM FjljTADMIS$% TICKETSaC,O
 USEL HORSEaF#RIS Wm4aROL&R COASlsmZ>PO&mjmZaMICROq3MOVIE CAM#AaC!EMAaksq3,TiMiA&TTEalPHATaCIRCUS T.
 TaTICKjoCLAPP# oEaP#hiM>,TSaViSO GAMEapn HITaSLOT Mix!EaBILLI,DSaGAME DIEaBOWLlBFogPLAY>C,DSar7lQEa
 q2& r7lQjTSAXOq3GUIT,ar7 kWoEaTRUMPjoVIOL!ar7 SCOREaRUNN>hTRT_ShBaT.NIS RACQUETmjnxSKImjSKI BOOTaBA
 SKETB;LmjHOOPahKQU#h1FjHaSNOWoE#aRUNN#aSURF#aSPORTS MED;aTROPHYaHORiHRAClBAM#IC) FOOTnxRUGBY:aSWIMM
 #aWE? LIFlsGOLF#aRAC>MOinCYC&bC,aCRICKET BATmjnxVOL&YnxFIELD HOCkW hmCKmjnxICE HOCkW hmCKmjPUCKaTAB
 & T.NISiADD&mjnxSNOW CAPPh1sSaCAMPlBBEix_slaBUILD>C%hNUnbakGiHBUILD!GSaCITYSCAPEaD#Ek6T kGiHBUILDlB
 CLiqli:aDES#TbISL)DaNml;iARKahtDIUMakGiHBUILD!Gbn5G,D.aOFFICE BUILD!GtajwSTk7FICEaEUROPE)=HOSPIT;aB
 )KaAUTOMAlgTEL&R Mix!EaHOTELaLOVleC%V.I.CE SinEaSitOLaDEP,TlG SinEaFAmSYaIZk4kHL)T#Nta CAST&aEUROPE
 ):qMP.N)TarrWAV>oVFjHbrrROSETTEarrLAkFaBADM!T% RACQUETmjiZTT&COCKaBOWlmoRaAMPHORAaEMOJI sO FITZPAhh
 CK mb-1-2dmb-3*3aRATakZSEaOXaoC BUFF;OaCOWaTIG#a&OP,DaRABBITaCATaDRAG%aCROCODI&aWH;EaSNAILaSNAKEaHO
 RSEajlaGOATah6EPaM%kWaROOSlsi7CK.aDOGaPIGaBO,aE&hoNTaOCj2k2me; h6LLaBUGa)TaH%EYBEEaLADY BEET&amZaTR
 OPli:aBhgmZajmT&aHATCH>i7CKaBABY:aFR%T-FAC!G=BIRDaP.GU!aKO;AaPOOD&aDiYED,Y CAMELaBAChh):aDOLPH!akZi
 HnICOW:aTIG#:aRABBIT:aCAT:aDRAG%:aSPhv>WH;EaHORiHnIM%kW:aDOGlXIG:aFROG:aHAMST#:aWOLF:aBE,lX)DAlXI
 G NOSEaPAW PR!TSai7PMUNKaj4Saj4aE,aNOSEantaT%GUEqMhUt1lVkl nubkfhXkbhXrdFiMh1klobWAV!G=OK=o7S UP:bp
 VaCLAPP>klS:akz=CiXNaoHS HATaj4GLiqjTNECKjkaT-hTRTaJE)SaDhjSaKIM%OaBIK!IaoHS CLO<jTPURSEaklBAGaPOUC
 HaM)S iUEaA<&TIC:alk-m4nFoHS S)D;bBOOTSaFOOTPR!TSaBUST ! $LkGETTEaBUSTS=BOYaGIRLaM)aoHaFAicYaM)mjo
 H HjF>klSakqM.h2WOM.=POk6Ek7FIC#aoH_BUNNY E,SaBRiS_VEILapU_BL%D HjSaM)_GUA PI MAOcjmB)ajF# M)boHaBA
 BYaC%hNUnb WORK#aPR!Cj0ta OGREbGOBL!aGHOSTaBABY )GELajGRhYRhjhh; ;I.a;I. M%SlsIMPaSKjxavbDESK pUaGU
 ,DSM)aD)C#ajrhmCKaNAILjwLiRamC MiqhuaHjSCUTaB,B#jw&aSYkiEaPILLaKISSooLOVE &TlskiaGEM Sm5aKISSaBOUQU
 joCOUP&_nKaWEDDlBBEAT>nKaBROK.:akqnKSaSP,KL>nKaGiXp5nK_,iXaBLUE nKaGRE.:aYELhglXURP&:anK_RIBB%aREVO
 LV>nKSanK DECORml",
 "kw4A0 qT h7PE_Alz !l4aE&ChhC olBULBa)G#rXBOMBaS&EP>ojaCOLLI$%:aSPLhB>SWEAT:aDROP&TalNrXPI&kePOOaF&
 Xh1BICEPSaDIZZYrXSPEECH B;LO%a<OUGHT:qMFnBaqf nMSrXM%EY BAGase EXCH)GEaohDOhxRobCREDIT C,DaB)KiQE_Y
 .mvcDOhxR:cEURO:cPlb:aM%EY_W!GSaCH,T_qE TR.DmjY.obSEATapU; mJUlsBRIEFCASEaM!IDISCaFLkQY DISKaOPTl
 i DISCaDVDaFI& FjF#akz=Phu_lKbFAC>UPaC;.D,aTE,-OFF:aC,D nuaCH,T_qE TR.Dcsm:aB,j5,TaCjroEaPhqP!anUlX
 AP#Cjrarn RU&RauD:aBOOKnQTABSa&DG#mWEBOOKbn5DECORATih Cl9aqUBOOKakz:aGRE.:aBLUleOR)GleBOOKSaNAME BA
 DGEaSCROLLaMEMOaxPaPhuRaFAX Mix!EaShYLLITE )T.NAaPUBk6 ADDhjS LOUDSPEAK#ahK#>MEGAq3hvj3 i1Ya!j3lXjj
 huaE-MAILrX!kL>saasa_wjoWaqUMAILj3_nBh1FjHjAISnFkz+4dnBnFPOSTj3aPOhtL HjWaNEWSPAP#aMOBI& PH%Ecn5w
 z jLkbaVIBRp6MODEaMOBI& PHkcOFFaNO MOBI& PH%jT)T.NA_B,SaCAM#Abn5FLhBaViSO CAM#AaTE&VI$%aRADIOaViSOC
 iqETTEaFILM iFJEmSaPORTAB& ST#EOaPRAY# BEADSaTWiMh1wzSatG tnmjtmmyoS:g,iXS_rWkcpPYbsmmjqE myoSoRSav
 n+6akjBR?Nj0rXlk=SPEAK#_q6p9 otbbn5kcSlb lucpESlb luSaBiv#YaE&ChhC PLUGawBMAGNIFY>GLiqaw9=lr_!K P.a
 qUlr_kWa:alrakz:akFLbn5q6p9 otaBOOKM,KaL!KrXRADIO BUTT%alV_wRoWa.DhD%_uemw_mkrYSO%_tn=j2_qE=NO kcn
 v E?E.rXkWCAP T.a!PUTvPptrU&TT#Se^:dpkSdojSdpt&TT#SaFkEaE&ChhC inCHaWR.CHaHAMM#aNUTmjBOLTaHOitaPiMO
 LaMICROSCOPEaTE&SCOPEaCRYhtL nx$Xt6l5_qCh8tavPBEG!N#ahhD.T EMB&MqPqZBUTT%amx=msikDqSbBLUE:bOR)GE qT
 bBLUle^ OR)GE:bBLUleUPt0 mNrVavw=UPt0 ^=vwh3vQteoVoSanThDrWmtjwMMEEamtjwMMEE_l1-oSoicmWhKDnD m7oS_t
 rbsEojnpM,KSj5APlsoVptmtamq=CELTIC:aOMrXDOVEkePEACEaKAABAaMOSQUEaSYNAGOGUEaM.ORAH_kt BR)hKSaBOWLkeH
 YGIEIAaClr mC kcOClrczfmR:cE&V.:cpp:c%EsMhHsMmosMkhsMkmsM$XsMn6sME?sMktsMT.sME&V.sMpp-pNqmSPEAK#cn5
 kcSlb lupC Slb luSaBjxHjWbn5Slb luSaki>kFLaBOOKaC)D&aM)TELoO ClrqPSKjxmjmtB%jTNO PIRACYaHO&aM) ! BU
 $Nj0 SUIT &VITATlBS&U<lESPYaD,K ShrLiqjTSPiSRbWEBaJOYhmCKaM) D)ClBmkkl xPaxP_Phuqmkl xPqMTOUCHnOTE&
 q3mr=TE&PHkc% j2keMODEMaCheh6LL MOBI& q3lVkesaahtMPnFsa_L?NlBFLY>saaP.ofhtMPnFL!Kh1PAP#CjrSqPPhqP!a
 ogmkP.CILcB;LnM P.cFOUNTA!:cPA!TBRhqcCRAY%omWRIT>klaqJOK klobr4kl_pKS SPLAYEDarf+5bo7S UPmvcpVbVImS
 Y klbkl_qCpK jG.DEDar4kl_P,T r3 pFmjR>pKSqMmut1mkkl nuasV oVmknMplrvoXr1rYoXmkt1lVkl:brdsV oVhUnMpl
 kfh2oXUPh0kf=oXhUt1lVkl:bkfhXnKaDESKlPmJUlskWoEmjkZSEapENEhHRKh1mJUT#SaPR!lsPOCKET C;CULAinqPH,D h6
 LL FLkQY DISKamxhDmdh3TAPE C,hhDGEaWImNkWoEakcBUTT% kZSEahH=mo=i1CKnxkupU; mJUlsH,D DISKaSCRE.aPR!T
 # IC%aFAX:aOPTli DISC:aDOCUlG_TjGd)D PICjmEc:aFjlEh0TI&Sc) XqPFjF#a:akz:aC,D p7ljD#SbFI& j3aFI& CAB
 !joq8iQEcPhucPADmWEbPhubPADaq8DOCUlGbPhubPhuSaDOCUlGaPhuaPhuSaWASTEBASKjome;lQEiADbC;.D,:aDESKlPW!D
 OWaM!IMIZEaMAXIMIZEapPPatG R?mjmkm7oSoRSaq6p9 Xa!ChfiHF%T $ZErXDEChfSEh3mJhj$%akukWaROL&D-hUNEWSPAP
 #aPhu_rWTjGaSTOCKj5,TaDAGG# KNIFEajrSaSPEAK>ks ! $LkGETTEapERAYSqOn0ckbcR?omSPEECH BUBB&arYkqSPEEC
 H BUBB&Samo=mk<OUGHT BUBB&arYmk)G#:arYMOOD:aL?N!Gh0aB;LOT j3_B;LOTbqVXbj3nih2BjFh2j3nih3oloBooB;LO
 T j3_BkuoBaWORLD MAPakZNT FUJIaTOKYO TOW#ahtTUEkeLIB#TYa$LkGETTEkeJAP)aMOYAIaGR!N>mCcn5sRj4SatuTE,S
 keJOYasRxjf)D sRj4SgCkuSWEATgT?LY-qUj4SdH;OdHjWSaW!K>nIsRy2amC SAVOUR>igICIOUS FOODaRELIEVh1nIsRtun
 Ksbj4SdShrLiqjTSMIRK>nIqs:aEXPhj$%&SS:aUNAMUSnFtuCkuSWEATaP.$VE nIC%FUSnFC%FlbnFKISSp5mC <iX>A KISS
 aKISS>y2dltnFtuSTUCK-hv T%GUEe)D W!K>j4fT?LY-qUj4SaDISAPnMh1nIWORRInF)GRYlXhvp5CRYp5P#SEV#p5tuLOOKk
 ehhUMPHaDISAPnMh1BUTikLIEVh1nIFiXN>xja)GUiRh1nIFE,FUL:aWE,Y:aS&EPY:aTIRnFGRIMACp5LOUDLY CRYp5xjaHhq
 h1nIxjmjCkuSWEATbSChfM>! FE,aAST%iRh1nIFLhqnFS&EPp5DIZZY:amCnihv ntbn5MEDli MASKaGR!N>CjLy2aCjLtuTE
 ,SkeJOYasRCjLxjenKsbj4SaCjLtuWRY SicEaKISS>CjLtuqUj4SaPhv>CjLnICRY!G=WE,Y=SL?LY FiXN!G:bSicp5UPl4-p
 VatuROLL>j4ScNO GOOD GESjmEcOK:apU BOW>DEEPLYaSEE-NO-EVIL M%kWaHE,-NO-EVIL:aSPEAK-NO-EVIL:aHAPPY p
 U RAIS>kcklapU RAIS>BO< klS ! CE&BRmlbFiXN!Gbn5Phv>mCcFjFh1klSaty t1&AFan8h3tz=n8h3qJtyh2n8hXtzh2n8
 h3ty t1V!len8hDtzh3n8hDohtyhXn8jntzhXn8hDty t1BUDan8h3tz=n8h3ohtyh2n8hXtzh2n8h3HOLkjjDLT qZsCe! oXo
 caSOLID jDLT qZsCe! oXocatmROCKjoqE:ua:asm:aqVsxET sCamqhDsxkz=mqjntZ:aSWhB=uA ohqBqJn2wh:diVhgjNoh
 !T#ROB)G:auA=mqh3V#Y ohr5i6V#SleoB# oEaREV#SE=ROCKjoHEk6OPlsSTEAM LOkLOTihaRAILkI C,alk-SPEh1i1!cn5
 po NOSEai1!aMETROaolRAILahtkyai1MbC,aBk2%kLp5TROL&YBk2BUS Sj2aM!IBk2AMBUL)CEaFkE .G!EaPOk6E C,a%kL!
 G=TAXIa%kLp5AUTOMOBI&a%kLp5k3hfky; VEHIC&aigihRY TRUCKa,TICULAlgLORRYai1mSaM%ORAILasS RAILkIaSUSP.$
 %:asS CAB&kIaA#I; i1MkIahTPaiXBOATaSPEEDBOATauZi1FFhRL?arb=C%hNUnbobPOk6E C,SikVOLV>L?auD FjH %jwST
 aDOORaNO .TRYobSMOK>ojaNO=PUT LITT# ! ITS oL:aDOlQ LITT#lXOTAB& oC:aN%-POTAB&=BICYC&aNO BICYC&SaBIC
 YCLiMasSlXEDEhNI)aNO PEDEhNI)Sai7LDR. mtlBM.SrXWOM.S:ahjTROOMaBABYrXTOI&TaoC ltjoiUW#aBA<aBA<TUBaPi
 qPORT C%TROLaCUSTOMSaBAGGhu CLAIMomLUGGhuarV_nUh1pGSaiFHIBITEDobrWvbSOURCEaBOYSrXGIRLS:aCOUCHmjhePa
 S&EP>ACkLMODmlaiUPP>BAGSakFLHOP kFLaBEDaoLkeWORhTPaOCTAG%;obiUPP>TROL&YaSTUPAaPAGODAaH!DU TEMP&aHUT
 aE&VAinkw6DD PLAYGnU SLiSaWm4aR>BUOYaHAMM#mjWR.CHahTELDaOIL DRUMaMOinkIaRAILkI i1CKaMOin BOATaUPt
 0 icIT,Y jSPL)Eb:b^:a=o9mLt0:ajSPL)E DEP,jmEb,RIV!Gkw6F0 ShYLLITEa%kL>FkE .G!EaDIESEL LOkLOTihaPiq.
 G# hTPaSCOOlsMOin:aC)OEaS&DaFLY>SAUC#aSKhYoEaAUiuRICKh7WaPICKhUTRUCKaROL&R SKhYkw7hE;hKMlivPjDNTj0.
 CEdjSdFkEdE,<doCdAQUAhiTISdAQUAikGIAeREGIA-2eVITAEeVITAE-2dV!EG,dV!EG,-2i0SULFURdPHILOSOPH#S:dmr:dM
 #CURY tieti-2i0C!NAB,dS;TdNITREdVIhhOLdVIhhOL-2dROCK S;TeS;T-2dGjFd$LV#dIR% OREeORE-2dCROCUSkeIR%dR
 EGULUSh9CkQ# OREdIR%-CkQ#:dtikeCkQ#dCROCUS+2fCkQ#-2dCkQ# )ja%IhYdS;Tk7h9tikeS;TkeCkQ#dV#DIGRISdT! O
 REd&AD:d)ja%Y:dtike)ja%YdS;Th9tik7hdV!EG,h9REGULUS+2f)ja%Y-2edREGULUS-2*2d;K;Id;K;I-2dM,CA$TEdS;-AM
 M%IACd,S.ICdhfLG,dhfLG,-2dAURIPIGlGdBISMU< OREdT,T,dT,T,-2djDCK LIMEdBORAXdBORAX-2i0;idOILdmeITdT!C
 jmEdGidWAXdPOWD#dC;XdTUTTYdCAPUT MORTUidSCEPT#keJOVEdCADUCEUSdhhD.Tdl5Rl6dLODESm5dSOAPdUR!EdHORiHDh
 rdhBESdPOT:dBRICKdPOWD#l6dAM;GirhNATUM SUP# hNATUMfhNATUM-2djvLIMmldPk3IPIThYkShmLLkSSSOLVEkSSSOLVE
 -2dPURIFYdPUTREFAnbdCRUCIB&dCRUCIB&-2*3d;EMBICdBA<keM,YfVAPOURSdREinTdkGRdN?dDAY-N?dM%<dn3DjleOUNCE
 kw7jRoXwBISOSCE&S oQrVbUPt0hXw9hXvwhXSL?LY ^qSaqdBkumx:ah3mq=V#Yh3tfh3oVoS qy>oX^:anUiaRGjooXT!Y oc
 bSL?LY ^:aolmx:ap3=BjF=mq=V#Yh3tfh3oVqZqy>oXV#Y ^:ep3:aqZT,GjooXT!Y qTbV#Y ^:bp3=oVqT qy>oXV#YhWp3:
 aqTiaRGjooXT!Y rObV#Y ^:bp3=oVrO qy>mr=<! pLmtaL?=p3=BjF=V#YhXmq=tfh3<! S;TkEaL?:ap3:aBjF:amq:aV#Y=
 tf=olkm SPOKh1rpayqtfhDol$X=yqtfhDolE?=yqolmot6oXl5ap3hDhDqdmot6v1olkht6rrp3hDhDqdkht6v1REV#iHL?hDo
 lkmt6rrmqhDqd$Xh3mqhD$Xt6v1qdE?t6rrmqhDV#YjNohE?t6v1olppt6rrmq+4dv1rWrVas4=rWocas4=@1F7E0 ms OR)GEq
 SbYELhg:bGRE.:bPURP&:bBiXN:bmNocbBLUE:bOR)GE:bYELhg:bGRE.:bPURP&:bBiXN:kw7F0 ohuhkw8hEwR_^ rVtxayxa
 wR_p3+2",
 "kw805 qEoR_qdrVtxuajNsmjNwR_ms=yxkw810 wR_^ EjDLhYR;:ayxawRni=z4ohssjnqEjntnjnsmjnwR_msh2qE+5btn+5
 bsmjNkbya_N,iX h7FTayxnNya_p3:ayxnNya_BjF:ayxnNya_mq:ayxnNya_V#Y=qE+6ua+6asm+6atmpK-POSToRz8tmocD:z
 8tmmJhjSl6z8tmmq=z3tmmq:z8@1F850 tmuA:z8z5y9@1F860 WiS-ksh1tmolB,B:bqEhXzlssh2qEh2tnh2smh2tyh0mLh2n
 8hclDh2tmp3h2qEhXzltmmqh2qEhXzltmV#YhXqEjntnjnsmjntyiVmLjnn8+5clD+4kw890 tmrVtxz8tmuuni!=yxawR_iQhK
 D koaz4mqoR h7FT WID< %EeuJekcl1fo6atmou-lMh1uuua ou lMnjtmj2h3tnhDtmkb-lMnjtn R?-lMnjssh3tnnD-lMnj
 tmlV-TILlglMOWnjtnhDtmFR%T-TILTEDh3tnhDuu h7FT WID< %EeuJkw8B0x1qE <. tyctn <. CURV>n8:kw9hErWmtndE
 E_tSehH:domn3oS_tSemo:ehH:eh8dakfW,D FAC>kgciQhKD:ckgsvciQhKDh3P!hKD pKSqMnKaBiXNlX!CH>klaZIPP#-n
 t nIM%EY-nt:atu<#MOMElsN#D nI<!Kp5tuks-B)DhuaROBOT nIHUGGp5$GNkelpHjWSaC;L ME klar4lVk7:nN-FAC>FiMa
 R?-FACp5klh7KEakl_numjqCpKS mtEDaI LOVE YOU klobtuCOWBOY HATaChgN nINAUSEATnFROLL>% lpFLOkRLAUGHlBD
 ROOL>nILYp5mCiALMaSNEEZ>nItukcj4BiX RAISEDaGR!N>tul5 j4Sdkcmsmjkc^ j4atupK Cl9>qUjrSaS#IOUS tuojS C
 l9>ntasRy2mjkl=xj VOMITlBiUCKh1tuEXPLOD>ksaPREGN)T oHaBRmL-FEEDlBP;MS hUTOGE<#aSELFIEaPR!CEaM) ! TU
 XEDOaMO<#j5RiMMASaSHRUGapU DO>C,TWm4aJUGGLlBF.C#aMOD#N P.TA<L%aWhjT&RSaoCjwLOaklnxDIV>MASKaWILlgFnB
 aDRUM_DRUMhmCKSaCL!K>GLiqjTTUMB&R GLiqaSPO%aGO; NjoRIF&aoP oL MED;aSEC%D=o6=j3>GLOVEaM,TI; ,TS kYhi
 MalK>Sm5aLAmtE hmCKmjnxmdnxFLY>DISCaCROISS)TaAVOCADOaCUCUMB#aBAC%aPOTATOaC,ROTaBAGUETTE BhfDaGRE. S
 ;ADah7LkjP)keFOODaSTUFFh1FLATBhfDaEGGaGLiqkeicKaPE)UTSaKIWIFRUITaP)CAKjTDUMPLlBhiTUNE COOKIEaTAKEh
 v j3aitPhmCKSaBOWL_SPO%aCUP_hNAWaCOC%UTaBROCCOLIaPIEaPRETZELaCUTkeMEATaS)DWICHaC)Nh1FOODa&AFY GRE.a
 M)GOaMO% CAKEaBhuLasRy2mjpEnKSaYAWN>nIsRtuTE,atuP,TY HjWmjP,TY HhSUNEV. j4SmjWAVY ntal9HEAlgnIFREEZ
 p5N!JAaDISGUISh1nImC HjF>lV TE,Sbn5P&AD>j4SaS,IaLAB COATaGOGG&SaHIK>BOOTaFLjLiUEaCRABaLI% nISCORPI%
 ajmkWakYCjW nIEAG&aDUCKaBATah7RKaOWLaFOX nIBUTT#FLYaDE#aGORIhxaLIZ,DaRH!OC#OSaSHRIMPaSjDDaGIRAFFE n
 IZEBRA:aHEDGEHOGaSAUROPODaT-REXaCRICKjoK)G,OOahxMAaPEACOCKaHIPPOPOTAMk2P,ROTaRACCO%aLOBSlsMOSjDTOaM
 ICROBEaBADG#aSW)aMAMMO<aDODOaSLO<aOTlsOR)GUT)aSKUNKaFhe!GOaOYSlsBEAV#aBIS%aSE;aGUiS DOGaiFB>C)EaEMO
 JI mJ%.T mNHjSclKY:cB;DcoVHjSaB%Ea&GaFOOTaTOO<aSUP#H#OaSUP#VIhx!aSAFETY VESTaE,_HE,>AIDaMOinIZh1Wm4
 CHjSaM)U;:aMECH)li ,Mb&GahKEiHWEDGEaCUPCAKEaS;T h7K#aBEV#hu j3aG,k6a%I%aF;AFELaWAFF&aBUTlsMhY DR!Ka
 ICE CUBEaBUBB& TEAaTROLLahtND>pUaKNEELp5DEAF:atuM%OC&aADULTai7LDajF# ADULTaBE,Dh1pUapU_ksSC,Fb! STE
 AMY ROOMbCLIMB!Gb! LOTUS s9aMhuaFjSYaVAMPkEaM#pUaELFaG.IEaZOMBIEaBRA!aOR)GE nKaBIL&D CAPaSC,FaGLOVj
 TCOATaSOCKSamNGIFT saaFkECRjj#aJIGSAW PUZZ& oOaTEST TUBEaPEhh mYaDNA qBHELIXamJiqaABACk2FkE jG!GUiR
 #aTOOLj3aBRICKaMAGNjoLUGGhuaLOky BOTT&aSPOOLke<hfDaB;LkeY,NaSAFETY P!aTEDDY BE,aBROOMaBASKjoROLLkeP
 AP#aB,keSOAPaSP%GEak3EIPTaNAZ, AMU&Taqs zNqMpXKN? rzhiTY-km pvSamrjNqsjNoVpXK>rzktTY:czMoXpXK!GhczM
 qs pXK!GhczMoVpXKN? rzud pN-km:yRzWqPzWaqs zWqMpXKN? rzkqqf p4-km pvSyRpXK>rzkqqf n6TY:cQUE.+yu5qPp
 XK!G+5cQUE.+yu5aqs pXK!G+5cQUE.+yu5qMpXKN? rzpEqf FIFlS:yRpXEjDHkQ#amr=qs=oVpXEjDHkQ# rzktTY pvSamr
 jNqsjNoVpXKN?-QUE.cKN?-ROOKcKN?-BiROPqPpXKN?-QUE.cKN?-ROOKcKN?-BiROPkwA60 XI)GQI mNG.#;cM)D,!cE&hoN
 TcHORjdCH,IhbC)N%cSjFI#boXG.#;cM)D,!cE&hoNTcHORjdCH,IhbC)N%cSjFI#kwA70 B;&T iUjT%E-oO SWIMSUITaBRIE
 FSanWSa<%G S)D;kwA78 DROPkeBLOODaADHE$VE B)DhuaSTE<OSCOPEaX-RAYaCRUTCHkwAjRYO-YOaKITEaP,ixUTEaBOOM#
 )GaMAGhRW)DaP!ATAaNEST>DOLLSkwA90 kih1PL)joCHjSaRAZORaAXEaDIkHhePaB)JOaicIT,Y HELMjoACCORDI%ammDRUM
 aCO!aC,P.TRY SAWaSCREWDRihRaLADD#akgaMIRRORaW!DOWaPLhr#aSEW>NEED&aKiQaBUCKjokZiHi1PaTOO<BRhqaksSm5a
 PLAC,DaROCKaMIRRkRnxiSNTIFICp6C,DakjBiv#YaHAMSAkwAB0 FLYaWORMaBEET&aCOCKROixaPOTlgPL)TaWOODaFEA<#aL
 OTk2COR;aq8NESTaNEST_EGGSkwAC0 )ATOMli nKaLhrSaPEOP& HUGGlBPREGN)T M)bpUapU_CiXNkwAD0 BLUEB#RIjTkF
 L PEPP#aOLihaFLATBhfDaTAM;EaF%DUEaTEAPOTaPOUR>LIjDDaBE)SaJ,kwAE0 MELT>nIS;UTp5tumyj4SmjklofntcPEEK>
 j4ct3ntaqvnHnIBIT>jraBUBB&SkwAF0 kl_p7pKmjpAmtEDua klasslX;M pVbUP:ap7t1jLlpVIEW#anK klSkwBhEBlr Sj
 G)ThJ1ts2sr3ts3sr23ts23sr4ts4sr24ts24sr34ts34sr234ts234sr5ts5sr25ts25sr35sr235ts235sr45ts45sr245ts2
 45srkPtskPsr2kPts2kPsr6ts6sr26ts26sr36ts36sr236ts236sr46ts46ts246srkVtskVsr2kVts2kVsr56ts56sr256ts2
 56srkXtskXsr2kXts2kXsrkTtskTsr2kTts2kTsrm8tsm8sr2m8aogmkwqogzVeoazVfs6ogovboQwqoawXnT:gs6oaR?eogwXo
 aovgs6oaR?fs6oaovfwXoaqCR?fu6nB+2xInT+2xInT:pWwqoau6oapF:xInB+2xInB:fwXogpF:aoaoQwqogzVeoazVfs6ogov
 pWwqoawXnT:gs6oaR?eogwXoaovgs6oaR?fs6oaovfwXoaqCR?fu6nB+2xInT+2xInT:boQwqoau6oapF:xInB+2xInB:fwXogp
 F:b)D R?mjoguD wC BlrnNmjnBmjsEoa)DnDmjnBhDkbmjnTmjR?jnuD kcqQ:anThDsEnBhDsqx7-2*5",
 "kwB76 uZx7-2*5nNmjogx7cnTh3R?+5cnBh3nTjNuZx7-1358aoakcqQ BlrbmouEbkmh2wC:bn6uEqmkcqQ:bmouEbkmh2wC:
 bn6uEomn3qdlMEardnTh3nBh3!V#SE=oan3Blrmjogl1hc!V#iHqdlMEmjogn3BlrkwB94nD n3!V#iHqdlMEmjrYoB# oE FIL
 La!V#SEh3ohtq:aoas6ogqLbwopIb)D oguD n3BlrnNmjrdoamkuD qdlMEbrdnBjnkbh3j3 DRAW!GS olt3oau6qCkbgiuqC
 R?ewXogovfR?+3eoau6qCkb+3giuqCR?+3ewXogu6qCR?giunT+4eoau6qCkbmjqCwoovgiuqCR?mjqCkb+3giuqCwou6qCkbgi
 uwXogu6qCR?ewXoau6qCwoovfoQiuoau6qCkb+3eqTdtq_wVa,iXkssbnM#a!V#iHoBoomkn3RUNN>M)ard!V#iHwj_TIP ssaw
 RmjnTmjogx7ua+8awjmjrdqE+6omn3FjF#arYVOiSD pLmtqmmys0h8as4 t3mtcqCwoovcqTqMohS;TkE_nUh1pGSomo6 oVoQ
 t1nuapFjNR?jNs4 s0rhoohmCK FIGUREcn5,MS RAISEDc&)>kbdR?cn5DhjSqMUPt0j5EVR%kwBF0 SEGlGh1zda@E0ka L)G
 UhuiaGa@E0020iaG o4bueoeQUOTml:bpkoqDOhxR:bP#C.T:btZbuKbyJbrpbkpoqn2bpS-nXusr5bzdbnPbtKbsnoqnJS:bvB
 :brhoev2ATbxplUpWw8bwkboQw8bxDbkjkdbvObxQlUpWvsbvqboQvsbmnaq6iaGa@E01hElfp6SE&mS-17*52bSE&mS-100*
 9C"]

end TypedTemplate.Text.CharName
