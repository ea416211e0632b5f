/-! Names of the characters of the alphabets in use and of their marks. -/
namespace TypedTemplate.Text.CharName

def alphabets : List String := [
 "jZ0 o4aueooQUOTml:apkobDOhxRlX#C.T:atZauKomuiaqLarpakpobn2apS-nXatEar5ap2Z#Ob%EbhHbmobylanPatKasno
 bnJS:vm:arhoov2ATaxplUomw8awkqmw8axDakjkdavOaxQlUomvsavqqmvsamnkO0xAspueooC.TobPlb:ase:aY.:aBROK. B
 ,aqlobszaCOPYR?obFEM!!E ORD!; tYawBqBmzwhmWobmd pSaREGiM#EDobowapvobkp-nX:avThHbmoan9rNaMICROobPILC
 iX:aqCh8arLavT%EaMASCUnHORD!; tYaw9 qBmzwhaVULG, vrqQdl1cwCasprhooxpAyhmnfszfkioWdiGC_rLdEyhszdIyhs
 zdE<dN_mndOyhmnfszawHobxpOvAdUyhszdY_n9d<jWw7h7RP SdAyhmnfszfkioWdiGC_rLdEyhszdIyhszdE<dN_mndOyhmnf
 szalj$%obxQOvAdUyhszdY_n9d<jWdYwTwxAz9Az1A_pwyBCz2Cx0yBCzGCz0DySDz7Ez9Ez1EzGE_pwyBEz0Gx0yBGz1GzGGzB
 Hx0yBHz7I_mnyBIz9Iz1I_pwyBIwSw7s8IbrUsxIJyCJx0yBK_rLrmdKRAwxLz2LzBLz0L_qCh8yELz7Nz2NzBN_C,%rmePk3ED
 h1BY uKwx.GyCOz9Oz1O_qBn9b^+5brUsxOEyCRz2RzBRz0Sz2Sx0yBSzBSz0TzBTz0Tz7U_mnyBUz9Uz1U_kioWyEU_qBn9yEU
 _pwyBWx0yBYySYwTdZz2ZzGZ_C,%rmdmmSdBvAwxBtpfj2B,yBnO$XyDmyOdCtpyBAFRIC) DdDtpfj2B,rmrjigTAwxsoEdoMd
 myEdFtpyBGh9GlCw7HVwxlndIvAdKtprmdL_B,i3MBDAvAwxqJMdN_mkkgw7N_mmoQ&GwxO_qCmnfHjWyBOIyCPtprmb~YRwxnO
 hHyDibb~soib mOw7T_vawxTqkyBT_tU:dU_HjWyBqgdVtpdYySZz7EZHerfb^+3pYkob~hHvAwxnOkmb^hX~spvJvAcWYNNcD.
 T; Ck6KcLhYR;:c;VEOL,:ctU:wxDZ_C,%dD_vjZh2vjDZh2wQLJdL_vjJw7LJwxNJdN_vjJw7NJwxAz0IySOySUySUwTmjowyF
 UwTywUwTmjC,%yFUwTmjnGb^+6rjEwxAwTmjowyFAwS+2yHAEqkyBGz7Gz0KySO_pwyBO_pwmjowyFEZH_C,%rmdJh2wQDZdD_v
 jZw7DZwxGz2HWjSdWYNNdN_nGyBA_kioWmjn9yHAEqkyBOvAlm:yFAzPAzUEzPEzUIzPIzUOzPOzURzPRzUUzPUzUS_n2oiyET+
 3yEYOGHyCHz0N_mmoQ&Gw7D_lKwxOUyCZtpyBAzGEzBOwTmjowyFO_mn+2yFOzGOwSmjowyHYqkrmdL_lKdNh9Th9s8JdDBrsdQ
 P:wxAvAdCySL_B,dT_t3otw7S_SWhB kodZhXwQvJyDBvAdU B,rjVdEz7JyS^ Qtp kob^ &TT#jnwQRz7Y+2rmrjAdnadlLl6
 dBtpdmyOdC_lKdD_kofkgdsoEdoMpYkgdmyEdrf+2ozkgdqUsomyEds8JvAdGtpdqVGby0w7GlCjAMS HjWrjHdHtpdH.Gh9IvA
 dlnbxoIw7L_qCmnfkFTfwAd&ZHrjMpDmm&GdMtpdN_pIftU:bxoNw7B,mNObxoOEw7qUnEdPHIrjRpDmm&GgkgdR_mm&GfkofmZ
 kgdrfhXxoRepgl6w7Stpdibds8JvAmjkgdSQUjLsoibdib_lKrjTdT_wAdU B,dqgdVtprjVeWeYby0w7Z_wAflKdEZHpYlKb~v
 JchoRYNGE; mXh1FRICATihcspvJchNEThKD CcBILABI; Ck6Kc^ rUBw7qUmyEbxoGtpeHw7JxaqJKbxoLw7Qtpb~vJvAcrfj
 nvjDZrsdDEZH:dDZrs_lKdTSrsdTib:dTCrs_lKdF.GrsdLS:dLZ:b~BILABI; P#CUS$VEcBiSNT;:w7qJH_mZkggmZkgmjkoa
 wy^ HpYkgdJdRdlLl6pDkgdrUspRdWdYcPRIMEcricqJn2cuKcson2coQtWcr1vJcrfh0kbtxcqLcUP:cpVcxDaC,%awyvqcowc
 n9rNcnG:ckjvqdowdvOdn9:cuD nPcl1h0ovD oQtWdr1rMcpVckpmvcnX:anfah8oWaRp5pwa^ mnaqBn9rNawykMThRkgcmtr
 Nc^ GlCdLdSdXdsovJcq4n1nOB,clkh0MIDh0hgh0q4hgh0Y! DEP,T>m5pHY)GhcmXlOUNAmehYDcqBuKckjkftxdUP:dpIdqL
 dkicqCvOdoThWn9:ckjmncr4nPipG! n1m5c.Dh0BEG! hg:c.Dh0h6LFckz:ckjkboRatovObn9:buU:bmnbowbl9kdbnfbh8q
 RszbkgqRki:bqBn9rNbC,%bvqqRoThcvObukbspnfbqJn2qRh2rfh2n2qDR?bvOqjn9h2mkTjj:brvmkmzqRHjWpWtWqjrM:bkf
 h2kpmv:bnXh2P;AT;IZh1kg:btUh2h8:bsz:bki:bn2:brLbpwbvqqjq9:bspqB,CH:bC,%:bxD:bnf:bpgEDh2mn:bow:bkjkd
 btQmn pPYbp0ot:blTh2p0r5:blTh2oQtWoi",
 "a@33A tospq9qjoc:bSEAGjx:bXqRsqmnbqBl9kdbnG m5oen9h2pLupcKOR%ISctL T%OScYPOuFbq9qRuhqjqBvq:pWmz:bi
 Q mnqRHOMO<ETIC:bwn:pWR?oRqjqEh2neEME JO!#bR?txqRmktW:bF#MATAbXqjkbtx:bR?h9)D UPtx:ctWqRh8qDR?brpqj
 qBki:bq5qRqBnfoidcowdn0cmncspnfcwzqjxQAeEeIeOeUeCeDeHeMeReTeVeXapLwQHhPyCs5SAMPIb^hXo5;oqnBh2wQPAMP
 HYLknDIGlCb^hX@37A YPOuFb^ soviqIrGhcrfjnrhoewQYOTb@384 T%OSbtL:wxnaqkb)O TE&IAwxEpM_T%OSdhPh9lnh9@
 38C rJh9@38E qgh9nEh2vjln_tLlm:wx;Pzsjy@3A3 $GiJTjPxlnEdln_tLdqgh2vjna_T%OSdEpMh9hPh9lnh9qg_tLlm:d;
 PzszQnEdln_tLdqgh9rJ_T%OSdqgh9nEh2rUKAIqIbBhP:b<hP:bqgtp:dn9lmh9szhXPHI:bPI:bKAI:b~s5KkQAb^hX~hmGMA
 b^h2~DIGlCb^h2~KkQAb^h2~SAMPIb^=COPThRwQh6IyCFEIyCKHEIyCHORIyCG)GIyNhTMyNDEIb^=pLKAPPAqIbkM:bvi:b~Y
 OTbrU<hPqIbLUNhY EpM:brfhXwQiUb^h2rUviqIc~S)b^h2kMvAqIbrUsovi:rGhcrfhDtFwQIE_nGdIOdDJEdGJEdv6EdDZEd
 BYELORUS$)-v6dYIdJEdLJEdNJEdTh6dKJEdI_nGdp0UdDZilAdw4IEdZilZEdIdnW:xwkUEFy6yLjfYUdYAw7Adw4IEdZilZEd
 IdnW:xwkUEFy6yLjfYUdhIIE_nGdIOdDJEdGJEdv6EdDZEdBYELORUS$)-v6dYIdJEdLJEdNJEdTh6dKJEdI_nGdp0UdDZHEwxn
 EyCYATyCpsh1EyDpQ YUSyDpsEDySBIG:yDpsEDySK$yCP$yCFITyNIZHIhyyCIZHIhy_qBvOyFUKyCnU nEyDnE_TITLOyBOTy
 CKkQAb^h2rcSobtotFTITLOcP;AT;IZmlhZ$A PNEUMAT(P$LI:cPOKRYjkcqf rcSmvcicLI%S:atFwQp0I_koyEm7mdmvyD#_
 TICKyBGHE_UPlLyBGHEz7GHE_qCkgyEZHE_tIyBZEySKAySKA_wVyEKAqkyBBhBKIR KAyD._tIrmbrUsx. GHEyDPE_qCkgyEA
 BhF$) HAyDES_tIyBTEySrn UyDrn UvAyEHA_tIrmbrUsxTE TSEyDhK_tIyBhK_wVyESHHyNABhF$)j5EyDABhF$)j5E_tIb^
 +5b~P;OCHKAwxZHEz1KAtpyBEL_koyB.tpyB._koyBhFKiqknhKyDEM_kormi8LOCHKAwxAz1AwTrmbrUsxA IEyDIEz1oMyCoM
 wTyBZHEySZEySABhF$) DZEyDIz9IwTyBOySB,mNOyDB,mNOwTyEEySUz9UwTyBU_qBn9yEhKwTyBGHE_tIyBY#UwTyBGHEvAmj
 kgyFHAqkyBHAz7KOMI DyjDJyjZJyjDZJyjLJyjNJyjSJyjTJEyDsoZEyDELtpyBLHyNRHyNYAEyCQyNWEyC;EUT KAyDEL_qCk
 gyE.+3yEPE_tIyBSHHAyS._mkkgyEDZZHEyCDhKyCEL_tIrma@531 ,M.knwQAYBdB.dGIMdDAdECHdZAdjQiETOdZil!IdLIWN
 dXjQCAdK.djyJAdGHADdhKHdM.dYIdNOWdh7dVOo2PjQJijjAdSjQVEWdTIWNdRjQCOdYIWNdPIWRdKjQOHdFEHb@559 wymktW
 buKbEMho$Soeue:bn2brhoevG:w7qJAYBd:dB.dGIMdDAdECHdZAdjQiETOdZil!IdLIWNdXjQCAdK.djyJAdGHADdhKHdM.dYI
 dNOWdh7dVOo2PjQJijjAdSjQVEWdTIWNdRjQCOdYIWNdPIWRdKjQOHdFEHcsxECH YIWNc~YIvAuspSa@58D R?-FAC>,M.knET
 #NITYobkb-FAC!Gh3,M.knDjl:a@591 HEBREWrN ETNAHT(SEGOLhC;h6&TcZAQEF QAT)dGADOLcTIPEH(REVI(Z,Q(PhBT(Y
 ETIVjCVIRcG#ibdMUQDAMcG#h7YIMcQ,NEYiAR(TELiRA GEDOL(PAZ#cATNAH HAFUKHcMUNAHcMAHAPAKHcM#hFdKEFUL(D,G
 (QADM(TELiRA QhPN(Y#AH B. YOMOcO&cILUYcDEkCZ!ORbnQMASORAqSbnM h6V(HATAF SEGOLi8Tj1QAMATScHIRIQcTS#E
 iKGOLcPATAHcQAMATScHOhedHAS#npVAVcQUBUTShZGiblEMAPIQcMETEGbub MAk9bnM RAFEbubiASEQbnM hTNlzc$N:bu
 b SOFiASUQbnQoah8cnB:bub iB HAFUhFbnM QAMATS QAT)b@5D0 ~kripTcoFhZ&TciIVAVcZlZcHk1Tk1YODcokKAFl0heE
 DcokMEMl0yQokPEl0okhyDIl0QOFi6SHhC!i9Vb@5EF YOD rVbsxYIDmY qBVAVdVAV YODdribub G#ibcG#h7YIMa@6hEqxp
 kmvoUS)AHbFOOTiQEmw#oUSAFH(SAMVATbqYnQnoa,ABIC-!DhRCUBE ROOTbkh<:aqxRAYa,ABIC-!DhRP# ic&mvmR rc:aAF
 GH)I:aqxn2bDhY sybPOEThRV#SEmvoUMISR(S;L;LAkG oDE Wiq;hecoDE iq;hecRAHMATjxAH oDEcRADI ;LAkG )jgTAh
 FLLUSb^ n1Tj1sxkr_he_hQdZA!cnyhZMM(o0btKb~M,KbqeTjG:bqbh8 ub:brh:b~KhBMIRI hQcnwckr_oGoWenw:cimhckr
 _nwoichQ_ufckripHjCH M,BUhkc<EHclRciWclHhZLc<;i6HcZA!iK.hCE.cjehZDi9HcZAHcA!cnrcKEij_rgoWetroicF,
 $ hQ_spVfrgoWfmoh2TATWEELb~FEHck9hwFm3ckvclAcijcimcvCchQbnyT)bDlCT)bo0T)bnybDlCbo0blMDAbSUKUNboGHqR
 nw:cn0bjvqVkrbspDlCbnQlA GHUNNAbZW,k4YvE^ VoWdpgEDhdsubsoDlCbny_rgbWAVY nwoiaxdZ#OczRaqxP#C.ToqDECI
 M; sybrcS:bkmt6l5b~s8BjQk9cvTkrckr WASLAdn5WAVY ufgn0cn1nwekreimcU_ufcn1nw hQcTTEHcTTEijipEHjCH_kie
 trqDsmcPEHjCijipijciW_uferg rb:cNhQcDhQciW_trqOThKHcThKijcDD;hZL_kiesug)D ^iaHhZH;cDDAH;cDULhZL_trq
 DsmetSqORREHi6H_^ Vekiesue^ V:esumjh8oWerg:cJEHi6H_tSqOSE._sumjh8:etroign0mjtrqOje_wIetrqOTAHiVA!iV
 s8FEHcFEHsv MOVh1n0f:cVEHcFEH_troicPEijck9wSetr:cKEijcSWhB KAFhwF_kieh8qONGhwF_troicGAFdn5kicNGOEHc
 GAF_wIcGUEHcGAF_trqOhe_^ Veh8oWetr:gn0clAsv:dGHUNN(RlAclA_kietrqOij DOixhBMh4ThKHwScij_hQ:dGO;pYufj
 CH M,BUTA GO;cim_kicrS OEl0UcYUcrS:cim_rgqOVEcF,$ hQchQ_koe^ VcimwScEchQ_troidB,REEpYufus~AEb^ n1sx
 je_he_vCek9+5dkv qandi3M krdlRdtrdSE.bqeAYAHbl5TkeRUB EL HIZBb^ n1nUh1Z#OdUPoQk3T)GUL,:ds8kskelHdk
 v vxckjSE.cn1oGcimchQclk:dlAboLkeSAJDAHbq8ov kjSj2dlk:bnUh1n1Sj2_FIL&D ovb^ kjkvb~D;_spVi6Hh3ygZ#Od
 zSaqx~h6._suhZDhcnr+3oU$NDHI tZdPOSTs9 M.b~ij_spVarTqeP,AnebSUPR;!E, tEbjvkd,h2SUPR;!E, nPbjvkd,:bt
 q:bw3kbdR?bSUPR;!E, w3kbbjvkd, w3R?bC%i1nbbH,K&) OkFUScMETOkFUScAST#ISCUSb@70F vGoe~;APHiiP#SCRIPT:
 ip<cGAM;dG,iZNIhZLA<cs8D;A< RiRciIimcZA!cHE<jC<",
 "a@71C rT~TE< G,iZNIcYUDHdiIKAPHm3ADHcMIMciBiKMKA<cqXcEmcrf:cjeiIQAPHcRiRhC!i9WcP#$) BHE<dGHAM;dDH;
 A<bP<AHAqOn0rGbZQAhoqOn0rGbRBASAqOn0bqvZheA tqd)GUL,bHBASAqOn0bHBASA-ESASAlzTEDbESASAqOn0bRWAHAbFEM
 !!ElzbQhqh7YAbRUKKAhFbkqsqh8SvWbtroWdn0bshnHnodn0bMU$CbB,REKHb@74D ~SOGDknZHA!dhFPHdFEaqx~BEH_tr tq
 LYoiesumjtroWetr t1qEoigt1qEoimjrgoWewImjh8:esp^ Voie^ VciW_rgoWetr t1qEoihZL_xZoimj^iaHesp^ Voii6H
 vAiK._tSqOA!_hHhWtr t1sm:exZ:cFEH_wIetr t1qE:cKEijwSetr:gt1qEoickvwSfn0clA_rg:e^iaHfVm3_B,i6H_xZoWe
 nw:iK._xZ:ciW_^ qx~TAHoig~TAHmjrgiK.+8i6H+8ciW_^ qx~TAHqOkr_yghH:gp2mo:cF,$ hQ_yghH:gxdmo:gxdnSn0ci
 m_ygkqnogp2mo:chQ B,REE_yghH:gxdmo:ciW_ygnSn0iK._ygnSnoespVhwF_rgoWa<A)A ~HA(h7pyclAUcRA(BA(LHApyhw
 AFUc;IFUcVAAVUckvUcFAAFUcDHA;Uc<A(LAAMUcGAAFUcGNApyiK.UhZpycZApyi9pyio(PApycJApycCHApycTTA(HHA(hF(<
 A;UcZA(h6.UcSAADjgDAADjgTOcZOcA!UcnrUcQAAFUcWAAVUbABAoKAABAAoKIBIoKEEBEEoKUBUoKOOBOOoKEBEoKEYBEYoKO
 BOoKOABOAoKSUKUNb~NAAa@7C0 NKOzi~(h4IcEcUchMOhZGBA$NN(NcB(P(T(JpdD(R(RRngGB(F(K(L(NA WOLOSOcMpiN(H(
 W(Y(NkHWOLOSOcJ%A JAo2RAbtop0n1m5dhg:dRISplmmDESC.D!G:dlk:dhg:dRISplNAS;IZmlpHqBh8qRn1nOuKbhgh2oj O
 O D.N.cGBAjbUN.bn2bueoeLAJ)Y;)b@7FD D)TAY;)bDOiYEoqTAM):aSAM,IT) ~;AFcBi4GAM)hZLhSIYcBA(Z.ci4Ti4YiP
 KAAFcLABhSMIMciBc$NGAhS!cFIchyADIYcQUFcRiRhC)i9AFbnQ!c!-;AFcOCCLU$%hZGibbwyEP.<EThRYUTbM,Kh2ugmmEd:
 dl9mmiOlT:d:dl9mmAdlT:d:bwynW:bnlmvh9mmUd:bwyIvElT:d:izSUKUNbnQNEQUDAjJ830 ub:cAFSAAQc)GEDcBAUcATMA
 AUhCIYYA;AAbvGoeub MELODhRQIhycZIQA(QIhycZAEFcjmUc,KA)UcSOF MhBFAhS)NAAUa@840 M)DAhR~H;Q(ABcAGcADcA
 Hchq.N(AZci4ivcAKS(AKjqASc!ci2ASZcAQhlhBchSDhq.N(KADcA!bAFFRICmloeVOC;IZml:bGEM!ml:b@85E uba@860 rT
 ~M;AY;AMkDAdJj8hIThkNNj8NNAdBhORAdhxdLhxdSSAa@870 qx~kr_ivixh1nyflPqLeoQqCotekbhWivixh1o0fou qLfnUl
 zoWfoQnUlzfkb+2fnU sueh8oWeivixh1lPoQnylmhWoQqCot+3eivixh1ou oQo0+3flPoQnymjmkkieoQqCot+3eivixh1o
 u oQo0+3foQnwfpIbTATWEEL_l9hNUCK:eimdwIb~<! hQbBASEnHnUlzbRAISEDh2~lA_sp^ VciW_sp^ Voii9Hsv:etr:cKE
 ij_xZ:bsqkob@890 PlbmwqRPIAhNEh2@898 ^ n1o8;-JUZckjo8iRMAAMeIMA;AeTASm4boG WAAJIBbvTkr MOhFSSASboT
 D oGbn3oG l9:b~BEH_^ VoieufclR_rg:i9HiVFEH_sumjmoh0k9_sum3_qBB,ckv_trqOhQ_wImjnw:gn0mjh8:i6H_mOcims
 vni!cROH!GkHhQckjkrhZL_troicjeiVGAF_spotcrn imcZA!_spVqOA!_troihwFsv:ck9_sumjNOlzSqOBEH_^ kv:cPEHiV
 TEH_^ TEH:i6H_^ lA:chQ_wIlmhcAFRIC) FjQk9dlAcPEH_^ VjCHhcTTEHhcThKHhcKEijhcnr_trqOAFRIC) k9iVlR+4gn
 0m3_^ qx~TAHqOiCFb^ F,$ hQclkh9hQ B,REE_wIdo8Sj1ZAHbms nUlzvWbSUKUN:bmsqS:cnUlz !l4h2^ kjimcn1o8,-R
 UBdjedA!dk9dlA_o0chghcn1o8A<-<;A<AeAS-SAJDAe)-NISFeSAKTAeQIFeWAQFAdFOOTiQEmw#d$GN SAFHAbDISPUlgqeAY
 AHbqJDlCqjlKY nyhZMM(o0cnyT)cDlCT)co0T)bnOkch8qOrg:cmO:ckcsucrg:cmO:bmynyT)cDlCT)co0T)b^ n1imbny_ki
 dh8qRo0svqjkbtxqRrvkbtxqjrvqBR?txoWpDh8b+5bDlCh2nQsV lA GHUNNAaDEV)AG,IoYspukl0wcAb~p0(:cA(IcImEUUc
 tOdLcpR EcnW:l0ispR OcnW:l0zqNNN(y8yovlOEdOOEoUmH(r9zDdpR EdnW:d:djBpR OdnW:d:wEvlwvdAWbOMbhNj0oYUD
 ivAd)UDivAbvObn9:vEpR mmEdjpUUEb~Q(KHH(GHH(ZlqDH(RH(F(YY(z6LLbwYzdbvGmvoUn1SPAC>h8b~pR (OEcOOEcAWcU
 EcUUEcM,W,I DD(ZH(ohY(GG(JJ(vJcDDD(BBAaB.G;I )JIoUybjJ985 ytLc@98F Ecis@993 Oczq@9AA y8@9B2 L(@9B
 6 laSSngHjJ9Bzj@9C7 EdjB@9CB OwEAb~KklAiab@9D7 AU paoe@9DC ~RR(RH(@9DF YY(zI9E6zi~RA_qCsFenB:bRUPEE
 pH$GNbse o5Ain %Ewidkc&SS <) lpD.OM!AincD.OM!Ain qrbISh7RbG)DAoe~q0rkbvGoqS)DHIoo@A01 GURMUKHIoYADA
 K B!DIl0phjJA05 xx@A0F h4is@A13 hMzq@A2A y8@A32 L(hxc@A35 V(la@A38 S(HjJA3CoYmHjJA3E ugvp@A47 h5jB@
 A4B OOwE(@A51 UDAATb@A59 ~KHH(GHH(Z(RR(@A5E FjJA66ziTIPPIbADDAKbIRIbURAbEK %K,oUYk4SHbvGob@A81 GUJ,
 ATIoYybjJA85 ytLbnl pR Eb@A8F &TT#:cAIbnl pR Ob@A93 &TT#:czq@AAA y8@AB2 L(hxc@AB5 VwJjJABzjpR Ed@AC
 7 :djBpR Od@ACB :wEjJAD0 OMb@AE0 ~zIAE6zivGoqRUPEE:b@AF9 ~ZHAoUSUKUNclMD(oGHcmo-h8 mHAqOoSh0hH-oS=@
 B01 ORIYAoYybjJB05 ytLc@B0F Ecis@B13 Oczq@B2A y8@B32 L(hxc@B35 VwJjJB3zj@B47 EdjB@B4B OwE(@B55 l9kd
 bAI paoeAUh2@B5C ~RR(RH(@B5F YY(zIB66ziISh7Rb~WAbvrqQdl1cwCckcqr<dE?HcpEqr<Sa@B82iaicoYwcjJB85 xx@B
 8v7B92 OchMAUhwc@B99kD(C(@B9C J(@B9E NY(TT(@BA3 NN(T(@BA8 N(NNN(P(@BAE M(Y(R(yojJBBE ugvp@BCv9BCA O
 dOOwEjJBD0 OMb@BD7 AU paoe@BE6ziu3cuddrcbDAYoqM%<:bYE,:bDEBIT:bCREDIT:bASoW:bRUPEE:bpk:a@ChETELUGUo
 YtoukqOyb(torkqRytLc@C0v7C12 OchMzq@C2A y8yojJC3zj@C4v9C4A OdOOwEjJC55 paoeAIh2@C58 ~hycDZ(RRR(@C5
 D Nk4,AjwLLUc@C60 zIC66zi@C77oYsfFRAnbunnpODDjwW#Skekhd%E+5dhH+5pC+5d%EnpEV.hdhH+5pC+5oUTUUMUaK)NAD
 AoYSPAC>ukl0wc(sfytLc@C8v7C92 OchMzq@CAA y8RR(L(hxc@CB5 VwJjJCBzj@CCv9CCA OdOOwEjJCD5 paoeAIh2@CD
 D ~Nk4,AjwLLUcF(@CE0 zICE6zi@CF1oYxzAa@DhEM;AY;AMoYtorkqOybAb~q0rkc(A(IcImEUUctOdLc@D0v7D12 OchMzqN
 NN(y8yo(TTTAoUvD nn(CIRoA:cr9zDd@D4v9D4A OdOOwEAb~h8ikPHoUP,jJD54 ~i7LLU MdYdLLLbAU paoevr%E-qf-)D-
 $Xjk<dhijk<cpEE?IE<SckcTW.jk<lI<cpETW.jk<SckcFIF<b~s5juzID66ziu3cuddrcbvrqQdl1cwCckcqr<dE?HcpEqr<Sb
 DhYoe~i7LLU NNdNdRRdLdLLdKa@D81 $NH;AoYukcrkY(phAYjJD85 ~qoAqoAEpTAEEpTIpTIIpTUpTUUpTIRUpTIRUUpTILU
 pTILUUpTEpTEEpTAIpTOpTOOpTAUpT@D9A uvKxtuvGxtK)TAJA NAA$KYAY(S)Yk4 GqouvCxtuvJxtTA;UJA NAA$KYAhIS)Y
 OOGA NAAK$KYAY(S)Yk4 JqouvTTxtuvDDxtMUURDHAJA NqoS)Yk4 DDqouvTxtuvDxtD)TAJA Nqo@DB3 S)Yk4 DqouvPxtu
 vBxtMqoAMBA BqoYqoRqo@DBD D)TAJA Lqo@DC0 VqoTA;UJA SqoMUURDHAJA:hZNTAJA:cHqoMUURDHAJA LqoFAY)NjJDCA
 oY;-LAKUNjJDCF ugAELrRdKETTI AEDrRkSGllKETTI IS-PIhxkSGllKETTIiArRd@DD6 DIGll@DD8 GAETTrRdKOMBUVAkS
 GllKOMBU DEjKKOMBUVA HAA AELrRfDIGA:fGAY)UKIThk:b@DE6 LI<zeb@DF2 ugDIGA GAETTrReGAY)UKITTAbub KUNDD
 ;IYAa@E01 <AI t7 KO KisKHO hFIdKHUATdKHWjBKH%jAhFNGcNGOkDUcitj5)di7NGdCH)GcSO SOcitj5OEcYO YlODOj5A
 D(iuPATAKc<O <)dN)GM%<OdPHU<AjsO N.cDO DEKciuTAOc<O <hrd<AH)d<%GcNO NUcBO BAIMisPO PL(PHO PHhrcFO F
 (PHO hoNcFO F)cPHO SAMhoOcMO MA",
 "a@E22 <AI t7 YO YAKcRO RU(RUcLO LlOLUcWO WA.cSO S;AdRU$dSU(HO HjILOj5UL(O )GcHO NOKHUKcPAIY)NOIcS,
 A (maH)-k4TcS,A iOirIdIIdjpUh5UdUUcPH!<Ub@E3F seqI BAHTbt7 S,A EdiGOdAI MAIMU)eMAIM;isLAKhFNGYAOcMA
 IYAMOKcMAITAIKjgmaEKd<OdhhdCHivAW(<)<AhFTcNIlHi4YAMAKK)cF%GM)bzdbt7 )GhFNKjgKHOMUTa@E81 LAO ~KOcKH
 O Shrd@E84iaMc@E86iALI GH(NGOcCOcP;Ij5(SOiaMc@E8CiALI JH(NjYP;I NxvNN(DOcTOc<O ShrdTAMcP;I DH(NOcBO
 cPOcPHO ShrcFOiaMcPHO:cFO ShrcP;I BH(MOcjYLO L!Gd@EA5 LOhb@EA7 WOcS)SKRIT h7dSS(SO ShrcHO:cP;I hxcO
 cHOiaMbELjr$SvEAdmaK)diOirIdIIdYdYYkUUUoUP;I nnvlmaK%bm7ugLOdNYOb@EC0 ugEdEIizAYdAIb@EC6 KO LjJEC
 8 nOmaEKd<OdTIdCATAWAbq6p9oeNIGGAHITjJED0zi@EDC HO NOcMOb~KHMU GOdNYOa@FhETIBhPN tHOMbnQGT# sZTRUNC
 AlgAf-UM RNAM BCAD MAgGT# Th6G:cqa sZMDUN:clt>sZSGAB:cC,ET sZPHUR lM:csZTh6Gh0SBRUL lMcBSjb YIG MGO
 cBKA- iUGh0!T#SYhxBhRTh6GcigIMIT# Th6G Bl5clMcjES:cTh6G:cjESh0R!j5. SPhrS:cRGkHiCM:cC,ET -DZUDq1 M
 E mmC)cGT# Th6GbLOGOmboYCHADq1dLHAG:bAhNOru$GN SiC GC) -CH,:d-KHYUDiAdSD%G TiZGSoURig DK, GCIGeGjES
 eGSidNAG GCIGeGjESdDK, Rig NAGbzdcn3zSdZ#ObnQBSDUSq1cNGAS BZhr jE ZL(C,ET -DZUDq1 BZHI MIG C)cNGA
 S BZhr SGORq1chK MGOchy -PHRUcGUGq1 GY%eGYASc)G hFNG GY%eGYASoUY, Th6ScM,:b~sHxi@F49 xVH(xsu9BH(Mw1
 (DZH(W(ZH(Z(-(Y(R(LwJ((KSS(FIXED-hiM R(KK(RRjJF71 ugvpxFjfh5OdOOoURJES SUkDA ROcRNAM BCADvEsoIeIIoU
 jE ZLA NAA D(SNA LD)bnQH;)T(P;UTAoULCIq1ioNG:cLCE hy C)cMCHU:cGRU C) RGY!GSdMl6cspMCHU C)buN$GN LC
 E hy:dMCHU:dpgEDh0~KrDxNAd@F99 NxvzEuSZAdDZhOWAdZhOZAd-AdhIRAi3dh7dSSj7Am1AdKSSAdFIXED-hiM WAejXRjJ
 FBE KU RU hFeBZHI MIG C)bC)TILp9oYohBEATdL?:dC)G TE-UdSBUB -CH;boj DRIL BUcRDO RJEcPADMA GD)cRDO RJ
 E RGkHiCMcPHURiAcNkRBUejES -KHYILeGSUM:eBZHI:b@FCEoYRig NAG Rig DK,eGSUMbnQBSKA- iUG GI MGO RGY)cMN
 YAM YIGhcjES Th6Gcqa BRDA RNY>sZMDUN M(lt>BRDA RNY>sZSGAB:aR?-FAC>SVAhmobkb-FAC!G=R?-FAC>SVAhmmvsvS
 nN-FAC!GhDTIBhPNmw &AD>MCH)q1ci1IL!G=@10hEMY)M, ~sHxiJHpiNxVH(xsy8L(WngH(hxc(h7N:cIcImEUUcEcM%:cOcA
 UvET;L iO:dIdImFUUjfjBM% IIeOdEoWoUrkcsucphtRASATbwUq7 jXRAeWAeHAb~GhfT SAbzdoUpQ qlc:boj LOCATihcm
 J&TEDcAhiElGI%EDcG.ITihb~laSS(tOdRRdLdLLvExFb~M%kDAdJhOBBAdBBEbwUM% q7 NAfMAfLAb~SGAW K,. h7vESGA
 W K,. EUbnOnQSGAW K,. HA<IfKE PHOb~lDwN<AfPWvllDwNEUgUEoUlDwNnR1*4b~mLwNNNAfYWAfGHWvlGEBA K,. IhaYA
 H OEeUeEEb~h7N KrDAdCAdZj8hIDj8AdhodFAdBAd<AdHAbwUh7N q7 Wvlh7N AAeEfnoeokYoUh7N nR2i0nR5i0COUNCI
 L nR2*1eEMhoThRm5b~RUmaP;Ahr FAoURUmaP;Ahr nR5bh7NzeoUhFMTI nR1dnR3vEAIT% AeAIboj h7N %EdueatkwQ)dB
 )dG)dD%d.dV!dZ.dT)d!haNi3SdM)dN,d%i8RdZH,jAEdS)dT,dUNdhoRdhFRdGH)dQ,dhTNdi7NdC)dJILdCILdCH,dX)dJH)d
 HiGilHIEdWEdH,dHOEm9C7 YNm9CD A.mMD0 ~)cB)cG)cD%c.cV!cZ.i9Nc!hwNcLAScM)cN,c%cP,cZH,cRk0S)i9RcUNchoR
 chFRcGH)cQ,hC!ci7NcC)cJILcCILcCH,cX)cJH)cHk0iIHiTWEcH,cHOEcFIcYNcELIFIcqJG)cA!bP,Ane syawytkN,atk~A
 .cH,DmvcLABI;:arHitSE%G odp1odcnVconp1oncnAcnLcmpp1mpckkp1kkpJcn7p1n7cqhcymnV-odp1nVqnonqnmpsLodqHn
 Vp1nAqHp8rwnAqtmpcrwnLqWodqWnVqWonqWkkvVodvVonvVmpqWnCkkvVn7qWn7qWqhqWquqWqccrwmpcrwnCmpoyodoynVoyo
 noynAoynLoympoymp-odoynCkkoyIEhroyn7oyqhoyr6oyquoyqcoyp8skkkcsknCkkvckkvcnCkkcr0pJ-odpJ-onpJ-nLpJ-m
 ppJ-kkpJ-r0p1IEhrpJ-n7pJ-qhpJ-qupJ-qccsAcn7-IEhrcskn7csknCn7vcn7vcnCn7cqh-r6cqh-p8skqhvcqhcqc-mpcrw
 qcp1p8veod-onqnkkqnn7qnp8on-nAcpxbJhrSE%G:c(k0Y(Yk0EOcEcYEOcjhOcW(Wk0OEcjYUcWEOcWEck5YUcEUcYIcIcA-O
 cA-Uio-Oio-jYEO-OcEO-UcEO-EUcYEO-OcYEO-UcO-EOcO-EcO-jhO-OcO-UcYO-Y(YO-Yk0YO-YEOcYO-OcYO-IcU-(U-k0U-
 EO-EUcU-jhU-UcYU-(YU-EOcYU-EcYU-YEOcYU-jhYU-UcYU-IcEU-UcEU-EUcYI-UcI-(I-Y(I-OcI-UcI-EUcI-,AE(,AE(,A
 EA-EOc,AEA-Uc,AEA-Ip1,AE(A-EUio-UcYEO-Y(O-Y(O-YAEbJ%GSE%G odp1odcod-kkcnVqnn7qnp8oncnAqHodqHnLqHmpq
 HuwquqHqcqHp8nLcmpqWkkckkp1zm-nAcod-kk-odqnodqnonqnkkqnr0qnqusLodsLnAqHod-uwnVqHonqHon-p8nCnAqHnL-o
 dqHnL-uwmp-uwmp-p8nA-rwmpqHnCuwr0qHr6qHvenL-odqtnAqtmpqtkkqtnCkkqtr0qtqhqtp8rwnLqWnAqWqcqWp8rwmpoyo
 doyonoynAoympcr0pJ-odpJ-nCodp1IEhrpJ-r6csAcsA-kkcsA-r0cqc-mpcrwqccmGH-nVcmGH-nAcmGH-nLcmGH-mpcveod-
 nVcod-mpcod-qhcod-r6cod-p8nCnVaxLH(jgkCHA(Hh4iIk8HO(L(LUcLIcLA(&Ec&cLOcLW(HH(HjgHkCHHA(HHh4HiIHk8HH
 W(M(MUcMIcMA(Mh4MEcMOcMW(SZ(SZUcSZIcSZA(SZh4SZEcSZOcSZW(R(RUcRIcRA(Rh4REcROcRWngSUc$cSA(Sh4jdSOcSW(
 laiZhCIhCA(h6EhCEhCOhCW(Q(QUcQIcQA(Qh4QEcQOcQO(QW(@124A Qk5QWA(QWh4QWEhz250 QH(QjgQkCQHA(QHh4QiIQk8
 @1258 QHW(@125A QHk5QHWA(QHWh4QHWEhz260 B(BUcBIcBA(Bh4BEcBOcBW(V(VUcVIcVA(Vh4VEcVOcVW(T(TUcTIi9(Th4
 TEcTOcTW(C(CUcCIcCA(Ch4jUCOcCW(X(XUcXIcXA(Xh4XEcXOcXO(XW(@128A Xk5XWA(XWh4XWEhz290 N(NkNkJA(Nh4NjMj
 sWpiNYkNYkJYA(NYh4NjhNjYNYW(scAkUIdiOh5EizW(K(KUcKIhw(Kh4KEcKOcKO(KW(@12B2 Kk5KWA(KWh4KWEhz2B8 KX(K
 XUcKXIcKXA(KXh4KXEcKXOhz2C0 KXW(@12C2 KXk5KXWA(KXWh4KXWEhz2C8 W(WUck5WA(Wh4WEcWOcWO(hoRYNGE; AkUIdi
 Oh5EdOhz2D8 Z(ZUcZIcZA(Zh4ZEcZOcZW(ZH(ZjgZkCZHA(ZHh4ZiIZk8ZHW(Y(YUcYIio(Yh4jhjYYO(D(DUcDIhZ(Dh4DEcD
 OcDWlqlqUcDDIcDDAlqh4DDEcDDOcDDW(J(JUcJIcJA(Jh4JEcJOcJW(G(GUcGIcGA(Gh4GEcGOcGO(GW(@1312 Gk5GWA(GWh4
 GWEhz318 GG(GGUcGGIcGGA(GGh4GGEcGGOcGGWA(<(<Uc<Ic<A(<h4<Ec<Oc<WpdCjgi7cCHA(hKEchKcitcCHW(hocPjgPkCh
 o(PHh4PiIPk8PHW(hycTSUcT$chy(TSh4TjdTSOcTSW(TZ(TZUcTZIcTZA(TZh4TZEcTZOcTZO(F(FUcFIcFA(Fh4FEcFOcFW(P
 (PUcPIcPA(PEEmcPOcPW(RY(MY(FYmB35D toGEM!mlmjnl papHhcGEM!ml:bql:bWORDo4usn2btKbnPbPREmC:brhoeP,An
 e sybp2zRbu3czbYcqfmR rcj63jRtHSEBATBEIT MW(Mk5MWh4Mw6BW(Bk5BWh4Bw6FW(Fk5FWh4Fw6PW(Pk5PWh4PWEbT%;m
 w YIZiED#iERIKRIKdnW:kSFATdK.ATdi7RiEHiSTdD#ET-HiSTdjbThA3A0j5#OKEE ~uVVcG(K(GEcGIcGOcGUhlH(iIkCk8H
 UhlL(&cLIcLOcLUhlM(MEcMIcMOcMkN(HN(NAHcNjMkJjsUhlQU(QUEcjDcQiLQUUhlS(SiKc$cSOiihlD(T(DEjCcDIcTIcDOc
 DUhlDL(TL(T&cTLIcTLOcTLUhlhycTjdT$cTSOcTSUhlW(WEck5WOcWUhlY(jhYIcjYYUhlMVj63F8 vjYEdYIdYOdYUi0MV"]

end TypedTemplate.Text.CharName
