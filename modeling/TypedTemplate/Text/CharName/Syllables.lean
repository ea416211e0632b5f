/-! Names of the characters of syllabaries and of further alphabets in use. -/
namespace TypedTemplate.Text.CharName

def syllables : List String := [
 "hA4hExgpScEcAisIcjuOcvSsJh5Ic(A(wZwex3WOvox2NASKAPI:cwbyUisYnq WcvJcokn9dnGdou tWdj2h9R?h9:dqBn9ep
 0wVSdqCh8dp0xCdkpdmuTjjc.c!c%c)mcPAisPIcPjuPOcPvSsJHh5kCP(PA(PwZPwePx3PWOvoPx2PwbPWA(vMYnq:cPvosJHj
 Ci9isTIcTjuTOcTvSsJDh5DIi9i9(TwZTweTx3hHvoTx2TwbTyUTcTTEcTTIcTTOcTT(KEhwisKIcKjuKOcKvSK(KA(KwZKweKx
 3KWOvoKx2KwbKyUKcKWcn8-SLAVEY KjQKIHdKOHhaHcjUCAisCIcCjuCOcCvSC(CA(CwZCweCx3CWOvoCx2CwbCyUCcpz <cME
 cMAisMIcMjuMOcMvSM(MA(MwZMweMx3MWOvoMx2MwbMyUMvoMHcA<APASC) Mcpz:cNjMAisNkJjuNjsvSN(NA(NwZNwbNyUNcs
 JNGcNHc&cLAisLIcLjuLOcLvSL(LA(LwZLweLx3LWOvoLx2LwbLWA(vMLvorqiKcSAis$c$IcSOcSvSS(SA(SwZSweSx3SWOvoS
 x2SwbSyUScA<APASC):cSWcmrFOOT ScMOOSEnq SKcNASKAPI SKWdS-WdSPWj7TWj7KWj7CW(h6hCIhCjuiUhChMlah7(SHwZ
 SHweSHx3SHWOvoSHx2SHwbSHWA(vMSHcjhYAisYIcYjujYYvSY(YA(YwZYweYx3YWOvoYx2YwbYyUYcBIB&nq:vopz YIi6cRnq
 :clDnq &cRAisRIcRjuROcRhMlDnq LOcR(RA(lDnq L(RWA(vMRvorqcFEcFAisFIcFjuFOcFhMF(FA(FWA(vMFc<jMnq:c<kJ
 nq:c<juNnq:c<Oc<hM<(<A(<WA(vM<cT<EcT<IcT<OcT<(T<cTjhTYIcTjYTY(iBAVIK ilHIdHIIdjyHOOm1HiOHciBAVUT:cH
 KcQAisQIcQjuQOcQhMQ(QA(QcTLiITLkCTLk8TLH(lDnqikdRIdROjAcNGAisNGkJGjuNGjsGhMNG(NGA(NGcNNGcpz h6dhTdi
 UdlaWOODSnq <Ed<Id<Od<Ad<cLkCLHjuLk8LHhMLH(LHA(LHc<nq <Ed<Id<IId<Od<OOd<Ad<iO<cAIVILIK BcmrFOOT EdI
 izAdWEdWIdWOdWj8EdNIdNOdNAdKEdKIdKOhacpz ilHIdjyH(sJGHUdGjyGilGHh5GHIdGhORUdROdREdRh5RIjAdWUdWOdWEd
 Wh5WIdWAdHWUdHWOdHWEdHWh5HWIdHWAd<Ud<Od<Ed<h5<Id<AdTTUdTTOdTTEdTTh5TTIdThkPUdPOdPEdPh5PIi8dPdGUdGOd
 GEdGh5GIdGAdKHUdKjyKilKHh5KHIdhFdKKUdKKOdKKEdKKh5KKIdKjKKKdNUdNOdNEdNh5NIdNAdMUdMOdMEdMlWImQYUdYOdY
 EdYh5YIdhIJUcpz:csJJOdJEdJh5JIcpz:csJJAdJJUdJJOdJJEdJJh5JJIdJJAdLUdLOd&d&EdLIi3dDLUdDLOdD&dD&EdDLId
 DLAdLHUdLjyLilLHh5LHIdLhOTLHUdTLjyTLilTLHh5TLHIdTLhOTLUdTLOdT&dT&EdTLIdTLAdZUdZOdZEdZh5ZIdZAdZdqa:d
 DZUdDZOdDZEdDZh5DZIdDZj7UdSOdSEdSh5$dSj7HUdiUdh6dh6EdhTdh7dSHdTSUdTSOdTSEdTSh5T$dhydCHUditdhKdhKEdi
 7o2TTSUdTTSOdTTSEdTTSh5TT$dThyci7mvctEcQisNGisNNGkJNGjuNNGjsNGhMNNG(NNGA(WOODSnq <Wh5<WId<WIId<WOd<
 WOOd<WAd<WiOok<cmrFOOT WaOGHAM o4oe~BEI<cLUIScFE,NcSAILcNI%cUA<hZIRcT!NEcCOLLcCEIRTcMU!cGORTcNGEAD;
 chNAIFcRUIScAILMc%NchnEADHADHcIODHADHcEABHADHcORcUIL&)NcIF!cEAMH)itLLcPEI<bFEA<#oerf=@16A0 RkYC ~FE
 HU FEOH FE FcVcURUZ UR UcjiYcWc<URISAZ <URS <jWcE<c)SUZ (kBOcAC (AESCcvZOSS OvUOSS:l0OEc%cRAIDO RAD
 ikID RhwUN(C.hwUN KcGc.GcGEBO GYFU GcG,cWUNJO WYNN WcHAGLAZ HcHAEGL:cvZHAG;L:vUHAG;L:cNAUDIZ NYD NA
 UD NvUNAUD:rG-NcISAZ IS ISS IcEcJ#) JcG#cvZ, AEvU, (IWAZ EOHcP#<O PEOR< Pc;GIZ EOLHXcSOWILO Sc$GE
 L vZSOL:vUSOL:cCcZcTIWAZ TIR TYR TvUTYR:cDipRK)) BEORC BJ,K) BvUBJ,K):rG-Pckz-PcEHWAZ EH EcM)NAZ M
 ) McvZMADR:vUMADR:cLAUKAZ jHU LOGR LrG-Lc!GWAZclODAGAZ DAEG DcO<;) E<EL OcE,cIORcCWEOR<cC;CcCE;Ccht
 NcvZYRvUjiICEL)DIC-jiQcXbrEubbq2&:bmt:b,LAUGqIbTVIMADUR:bkFG<OR:b~KhCchMFR)KS CASKET OSeISeEHeACeAE
 SChA7hETAG;OG ~(zndUoUnn(PAMUDPODj671F ~s5RAaH)UNOO ~(zndUoUPAMUDPODaPHIjrP!EqK ubbrihA740 BUHID ~(
 zndUhA760iaGB)WA ~(mEK(G(xm(Y(@176E L(W(SmB772 ugIdUhA7jRKHM# ~K(hFcKOcKk8NGOcCpdCOcitcNjYD(T<(DOcT
 <jsNOi9c<(TOc<jsOcB(hocPOcPk8MOcjYROcLOcVOhC(SSOcS(H(L(QAbv4 nl QkKQiOQIdQIIdQUdQUKdQUUdQUUVdRYdRYY
 dLYdLYYdQEdQjBQOO mb %EfhHdQAUbnl !H#.T kKA($GN:dIdIIdYdYYkUUUdUAdOEdhIIEjfiGjBOOdAUoUNIKAHi4hfHMUK
 cYUUK;EAP!TUcMUU$KATO)chhISi2B)TOCcROBhSTO)DAKHIhSKk4BhSAHSD(SAMYOK S)NY(VIRIAMcCO.GcBA<AMAShShFNcB
 ,IYOOS)cCAMNUC PII KUUHc&K ThMBEYY;cPHNAEK MU)cKOOMUUTbseqI RIELoUAVAKRAHAS)Y(ivHAC)j67E0zi@17F0q
 I &K ivAK S%eMUOYePIIeBEIeBU%ePjlePjl-MUOYePjl-PIIePjl-BEIePjl-BU%hA8hEM%GOLknoNbELjr$Sbn2usnPbtSbT
 ODO md pSb$BE tHBlb,Ymw#bM)CHU n2ctEbNIRUGUbFREE lfp6SE&mS %EehHemobnl sybFREE lfp6SE&mS khbzdj682
 0 ~uVOEcUEch4N()GcB(P(Q(G(M(LnglaT(DpdJ(Y(R(W(F(K(hFchycZ(HA(ZR(LH(ZkCi7cTODO mmnlmvjfIizUdOEdjp)Gd
 BAi8dQAdGAmQhkDAo2JAdhydhIWAhadGiOHiOJIj8IAdDZ($BE EdIdIYdjpUd)GhadGAm1Pj7hOhkDAdJAdFAdGiOHiOhydZAj
 AAo2ZH(M)CHU IhajAdFAdZH(CHA_rghz8jRtcrk %EephA:eDAM,UeUBADAMAepgl6eB;UDAemo:eAeIeKAeNGAeCAeTTAeT<A
 eDDAeNNAeTAeDAePAehoeSSAeZHAeZAeAHcTODO tcTAfZH(M)CHU tcGHAfNGAfCAfJHAfTTAfDDHAfTAfDHAfSSAfCYAfZHAf
 Z(tcn3UfY(M)CHU tcBH(tcDAG;G(M)CHU tcLHAhA8B0 xgOYcAYcAAYckIcPOYcPAYcPWOYi9YhwYcKkIcMAYcNOYcNAYcLAY
 cSOYcSAYhCOYhCAYhCWOYcYOYioYcRAYcNk5OJIBkI:cNWjuOJIBkI:cNWOcOJIBkI:cNWhMOJIBkI:cRWh4Rk5RWjuRWOcRWhM
 RW(OJIBkI PdTdKdCdMdNdSdSHcmL#N WclD#N:cok^ kidr4h8cRnq RWEclDnq LOOi3(<WEc<W(T<WEcT<hMT<A(TLHWEcTL
 HhMpz SHWEdiUOdHhMsJGWUdD.E Gh5GiOGW(pz JUUcsJJW(BEAV# D.E LeRcsJD.T; ShA9hELIMBU nl-sJ&TT#b~sHxiJH
 (Y)i9c<(D(DH(N(y8L(WwJ(GY)ci1j6920 ugAdmFh5jBOOdjPEdObuN~hIRAdWmB930 vjjKNGAdrkdhkNAi8mQRAi3oUMUKPH
 R.GcKEMPHR.GcSA-Ihz940 LOOj6944 ueoerh:bzdaTAI & ~jKXj8GAdhydSAdhIhk<Ai3i8dhomQFAdVAm1QAdhFdTh7dNAd
 AdIdh5jQUdOOizjpEdAjpjB@1970 nR2*4hA9jRNEWiaI LUE ~n1QAehg:en1KAfXAfNGAekjKAfXAfNGAen1hyfSAfjXkjhyf
 SAfjXn1TAf<AfNAekjTAf<AfNAen1PAfhofMAekjPAfhofMAen1FAfVAfLAekjFAfVAfLAen1HAfDAfBAekjHAfDAfBAen1KVAf
 XVAekjKVAfXVAen1SUAehg:jz9B0 ugnl nW.#fAAfIIfUfUUfEfAEfOfOAfUEfAYfAAYfUYfOYfOAYfUEYfIYd~okVfNGfNfMf
 KfDfBdm5mwhJ1jz9D0unezTd<AM p2%Ejz9DEoYLAEeLAEVaKHM#qIiA<AMAShSMUOY KOk1PII:ipI:cBU%:cPjlsYMUOYsYPI
 IsYBEIsYBU%:hZPrFMUOYrFPIIrFBEIrFBU%rFPjl:cTUTEYAShSMUOY ROCcPII:ipI:cBU%:cPjlsYMUOYsYPIIsYBEIsYBU%
 :hZPrFMUOYrFPIIrFBEIrFBU%rFPjl:aBUG!EiH~K(GpfNGK(P(B(M(MP(T(D(N(NR(C(JpiNYCuoVng(HvlmFEizAEj6A1EiAh
 xWAbqeqlaTAI <AM ~n1KAehFeKXAdkjKAeKXAehFdNGAdn1CAeChOkjCAeSAeChONhIRAhkn1RA<AdDAdkjRA<AjANAdn1TAe<
 AdkjTAe<j8AdBAdn1PAehoeFAdkjPAeFAehomQkjhIlk:jAdRjpLAdLjpWAdn1h7eSSAeSAehOhxdAdkjhOIdImFUUdh5OOi3Ed
 GhfT S(wUq7 RAfLAeLAiaNG LAIpemaK)G:cwUokNGAekjPAen1RA<A ORhWMAeBAeS(@1A60oYSAKhbugAemaSATeAAeT;L:e
 IeIIeUEeUUEeUeUUeOeOAoieOYeEeAEeOOeAIe<AM:eOAoWpemaK)GdnR1i0KHU. nR3*2jA HAirmaSirKHU.-LUE K,)hzA7
 F tov5hRh8cHORAunezThzA90 <AMunezThzAA0oYWI)GdWI)GWAAKdSAW)dKEOWdHOYdDOKMjBsorzR)AdmaYAMOKha)ha)KUU
 dSATKA)dSATKA)KUUdH)GdCA)GhAAB0 tooTD xDbsz-kib!F!ITYbwjbqbh8bX-XqjWIGGLY kd:bkzmw:boThXye:bhN%GhXP
 ,.<ESESqRtQP,.<ESESoicpPYbxQWoielLEDh2mkuiqDkbboQuiqDR?pWuioinDboQuioi R?bw8SqRpkmv:bspqB,CH:bkpmv:
 boT+3en0bqbn9rNbxQsQGfRfThABhEB;!ESEoYULU RICEMdpRcCECEKiiR)GcBISAHb~k4RAdpqcIK,AdpqcUK,AdpqcRAikPA
 epqcLA &NGAepqcEK,(AIK,(OK,AdpqhwduMGAdGORpfCAi3C(JAdJ#piTA LATIKdmiA uMDA miA ;PAPR)AeuMNA jlBhShk
 TAW(DAdMADkN(PAhaP;cBAdKEMB)GcMuoW(SA SAGj7APAdcHAoUR#EK)vEpqdULUeS,IdSUKUeILUTjAikPAfpqi3 &NGAfpqd
 T;!GeREPAepqeREPllPEPETepqbADEG ADEGb~KAF SASAKcKHOT:cTZIR:cEF:cVE:cZ;:cASYURA:cs5JNYmBB50ziP)TIbPA
 MADAbW!DUbC,IKiAMhrKAHc$KIcP,#.bPAM..Gbr7qI D%GdD.GdDhrdD)GeSUR)GkSNGdDA.GdDEhrdDA!GdD)G GEDEdtoTEG
 EHe.DEPeKEMPULeKEMPLIeJEGOG)eKEMPULqkeKEMPLIhWB.DEeG%GdR?-kl myDUGfDAGeqUTUKfTAKdkb-kl myP)GfPhreqU
 PLAKfPLUKemyP!GbP)TI L)T)GbPAMADA:hABjRSUND)ESEoYP)YECEKcP)GLAY,cP)GWIjeb~(mEk0OcEcEUhwcQ(GpfC(J(Zp
 iT(D(N(P(F(V(B(MuoWngX(HAbwUPAM!GK;i8NYAKRAi8jEKUvEP)GHULUi8NYUKUi8NAELA.Gi8NOlTi8MEPiEP)EU&hroUPAM
 AAEHcnnAbwUPAS)G) MAeWAb~hFcSYAbzdbr9Ab~REUc&UcBH(okKdMaBATAK ~wdHwdM)DAILplB(K,O:cPwdN(M)DAILplWwd
 PAKPAK:cGwdJ(D(RwdMwdn8#Niaco9#N:cSwdM)DAILplYwdNG(LwdNY(C(ND(MB(IcUoUTOMPIvEEi8KPAK:dh5IhaRO:izK,O
 :dUehi $M;hrUN SAbwUNGdHbP)GOLATbP)%G%)j6BFCqI B!DU NA METEKdP!,BORASdJUDULi8NGOLATa&PCHA ~K(KL(hFc
 G(GLyvP(PL(hocF(FL(B(BL(M(MLw1uoH(HL(VnglaW(AbuN~hIRvliOIizOOkUUUdEbwUKdMdLdNdPdRdTdjEN-DOhaNGoUR)c
 mHmBC3B ubia-ROLcNYET <YOOM:cC#-W(TSkg:dbzdj6C4D ~TT(T<lqAaOLj5IKIzec~LAdATdAGd)Gd;i3AdAAKdAAJdAirA
 AWdLIdISdIHd!YdIRdLUdUC",
 "hAC6B OLj5IKI ~UDdUNNdUYd&dEPdEDDd.d#RdLOdOTTdOBdOVdOHcMU TTUDDAGcGAAHLAA TTUDDAAGcMU-GAAHLAA:i6LA
 (ho,KA(AHADcub MUCAADdriatFvjnUh1VEdlT-&GGh1DEdN,iX OdWiS ESdT;L TEpC-&GGl6dT;L H,DmveYATdUNB&NDh1U
 KhAC90 tkMTAVRULI wQ)eB)eG)eD%e.eV!eZ.eT)e!eK)eLASeM)eN,e%eP,eZH,eRAEeS)eT,eUNehoRehFReGH)eQ,ehTNei
 7NeC)eJILeCILeCH,eX)eJH)eHAEeHEeHIEeWEeH,eHOEeFIeYNeELIFIeqJG)eA!e@1CBD A.eH,DmveLABI;:aSUND)EiHu
 b B!DU SURhIP)GlTdPURNAiJCAKRAd&U SAT)GAha:dDllBA:hACD0 q0nOK,h7N(h7R(PR.hFoUNIHSHVAS(YAJURq0MIDnHS
 lfTAbnOYAJURq0AGiCVAlgv4:dh9KA<k4h0pRoiioJURq0KA<k4 v4 SlfTA SCHROED#cqBSlfT(pO:hw<k4 )UDiv(sucrg:c
 moh0RIGq0KhBMIRI v4 SlfT(A<,VAVEDIC+2oUphllUDiv(rfh0phA )UDiv(rfh0phA UDivA_kod)UDivAh0rk )T,GOMUhF
 dBAHIRGOMUhFdVAMAGOMUhFpYkocTIRYAKcHEXIhiM mmrkch0R<)Gh0rk UBHAYAiuMUhFc,DHAph(ROThYD:bnOpRoWoUxz(A
 TIKjlAbnOkiqOtQ$GN qBrk )T,GOMUhFhADhEptxoAeAEw7lLl6bxoB,mNBeCeDeE<eEw7qJkz:eIbxoJeKeLvAeMesoNeOekz
 :w7sV:ekz:eOvArjOEbxoOUw7lPn3Odouh2xoPesoRelLl6eTeUw7sV:eDIA#E$Zl6eqJMbxoVeWeZeEZHcmXh1L,YNGE; me)T
 cA!apLxoGlCeheDAePIekMeP$atFxoELawyrUAdiGBdB,Rl6dDjfrf:dG*7drf:izOUdPdRdTkUWc^ AdlLl6dnarjiGBdDjfoM
 dmyEdlLEDh9GrjIdKdMd.Gizkz:dlPl1:douh9PdTkUsV:rjMdVdA!dBhPdpLGlCdighkpLPHIdi7aptjvqVvjIeReUeVapLjvq
 VvjBhPeGlCekMePHIei7axQjpB_qCmndDhdFhdMhdNhdPhdR+3fmZkglmh9Snih9ThdZhdqJGawytF.axQsQGd<_hNIKE<ROUGH
 cwQIvAc~lnh9Ph0wQUh0~qgh9B_vadDhdFhdGhdKhdLhdMhdNhdPhdRhdShdibhdVhdXhdZhdA_tU:dnahdDtpmjkodE_wAdkz+
 4drf+5doMhdIhdmyOhdibhdUhdEZHh3wy^ qJnadCpYlKdE<dsomyEdFds8JvAdqVGrjHdIvAdlndrUIpDotdJxaL_wAfP;AT;:
 drULdMtprjM_mm&GdN_mkkgftU:drUNdB,mNOdPHIdStpdibdT_vadU B,dqgdrUUdVtprjVdZpYwAflKdEZHd<hPatoqvvOcn9
 :bSNAKEqjSUSP.$%oeow-n9bnG-owbow-nGbn9-owbnG-n9-nGbn9-nG-n9bxQRqjnf-owbow-nfbqBuUqRpw:bq5qjIS:bURqR
 US:bxQFLiv.h1myA:eAEeAOeAVeC rLesQDeE<eGcy0cvjKeLcy0fMcvjNcy0fRcvjR ROTUNDAeSelT:eZenaeBeBhPeoMeFeL
 _qBqCmneO_yeePeibeU_yeeWeAwTeOhWUh2rMqRKAVYKAqDR?dkbbh8h2WiS spq9qjsunDbigEkyoeqBspnfqjwn:bkbtxqRR?
 txmjkftxoiaxpA_kiyTBzGBzHB_kdyTC_rLywDzGDzHD_kdyTDzBDx0oiyEE_owmjnGyFE_owywEx0oiyEE_mnyTE_rLmjnfyFF
 zGGz9HzGHzHHwTyBHzBH_nfoiyEI_mnyTIwTywKqkyBKzHK_kdyTLsvyTL_sumjowyHL_nHn0yELx0yTMz2MzGMzHNzGNzHN_kd
 yTNx0yTO_mnywO_mnmjszyFO_owmjnGyFO_owywPqkyBPzGR+3yERzHR_sumjowyHR_nHn0yESzGSzHS_n9mjh8oWyHS_C,%+3y
 HS_suhX^+8wxTni+2yETzHT_kdyTTx0yTUwTyTU_mnyTUx0yTU_mnywU_owmjszyFV_mnyBVzHW_nGyBWz2WwTyBWzGWzHXzGXw
 TyBYzGZx0yBZzHZ_kd:b^+5dHhdTwTdW_kioWdYhdA_oQtWdmmSwSgt3otglk:wxh7RP Sw7igTAwxAzHAzLAx0ywAxrnGyFAxr
 yyAxrmnyFAxrsuyHA_nfywA_nfmjnGyFA_nfmjyyA_nfmjmnyFA_nfmjsuyHEni+2yEEzLE_mnyBEx0ywExrnGyFExryyExrmny
 FExrsuyHIzLIzHO+3yEOzLOx0ywOxrnGyFOxryyOxrmnyFOxrsuyHOwfn9yFOwfnGyFOwfyyOwfmnyFOwfsuyHUni+2yEUzLUwf
 n9yFUwfnGyFUwfyyUwfmnyFUwfsuyHY_nGyBYzHYzLY_mnyBpF-WELSH LLyDpF-WELSH VyDY_mOrmapLvjnazuwQnazuvjEpM
 zp18 wQEpMzp20 vjhPzuwQhPzhxfupfDA$A+2",
 "kw30 pLvjlnzuwQlnzuvjrJzp48 wQrJzp50 vjqgzu@1F59 wQqg_DA$Ag@1F5BmjlfAg@1F5DmjOXIAg@1F5Fmjupw7nEzuw
 QnEzuvjna_u5dEpM_u5dhP_u5dln_u5drJ_u5dqg_u5dnE_u5jzFjRnax9YPOzxwQnax9iFSzxvjhPx9YPOzxwQhPx9iFSzxvjn
 Ex9YPOzxwQnEx9iFSzxvjnaxklfAyiD:f@1FBzXnaxku5fiFSuFbKOR%ISbiFSuFbP$LIbupbtLlm:w7hP_lfAyiD:f@1FCzXEp
 M_u5dhP_u5fiFSuFbP$LImjlfAdOXIAdupw7lnxktLmjlfAg)D OXIAf@1FD6 upftLlm:wxlnxku5j6FDD DA$AmjlfAdOXIAd
 upw7qgxktLmjlfAg)D OXIAdkM_P$LIfDA$Adqg_upftLlm:wxqgxku5dkM_DA$AbtLmjlfAdOXIAblfmBFF2 vjnE_lfAyiD:f
 @1FFzXrJ_u5dnE_u5fiFSuFbOXIAbDA$A"]

end TypedTemplate.Text.CharName
