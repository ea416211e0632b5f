/-! Names of the characters of scripts no longer in use. -/
namespace TypedTemplate.Text.CharName

def historic : List String := [
 "l70hEkd, B tHB008 AhG38 EhG28 IhG61 OhG10 UhG01 DAhG45 DEhG07 DIhG14 DOhG51 DUhG57 JAhG46 JEm900
 D B036 JOhG65 JUhG77 jKB044 KEhG67 KIhG70 KOhG81 KUhGjRiJB013 MEhG73 MIhG15 MOhG23 MUhG06 NAhG24 NE
 hG30 NIhG52 NOhG55 NUhG03iAhG72 PEhG39 PIhG11jwhG50 PUhG16 QAhG78 QEhG21 QIhG32 QOm9028 B060 RAhG27
 ikhG53 RIhG02 ROhG26 RUhG31 SAhG09 SEhG41 $hG12 SOhG58 SUhG59iahG04 TEhG37 TIhG05 TOhG69 TUhG54 WAh
 G75 WEhG40 WIhG42 WOm903C B017 ZAhG74 ZEm903F B020 ZOhG25 A2hG43 A3hG85 jPB071 DWEhG90 DWOhG48 NWAh
 G29 PU2hG62 PTEhG76 RA2hG33 RA3hG68 RO2hG66ia2hG87 TWEhG91 hHlw050qI B018i0B022hG34hG47hG49hG56hG63
 i0B079hG82i0B086hG89lw0jRiSnm B1hEM)if02 oHif04 DE#if05 EjDDif05F M,Eif05M htLLI%if06F EWEif06M jli
 f07F h6-GOATif07M HE-GOATif08F SOWif08M BO,if09F COWif09M Bjxif20 WHEATif21 B,&Yif22 OLihif23 SPICE
 if25 CYP#UScM%nm B127 KAPOif28 K)AKOciSnm B130 OILif31 W!Eif32cM%nm B133 ,EPAif35 M#IciSnm B140 BR%
 ZEif41 GjFif42if45 WOOLif46if50if51 HjWif52j9M%nm B156 jmO2ciSnm B157i0B159 CLO<if60i0B162 G,lGif6
 3 ,kZRif64*8if73 M%<if74if76 TRh5B177*8if89i0B191 HELMiEB220 FOOTSTOOLdB225 BA<TUBdB230 SPE,dB231oR
 dB232dB233 SWORDdB234dB236dB240 Wm4h1CH,IOTdB241:dB242j5,IOT FjlEdB243 Wm4dB245hlM%nm B247 DIPTEciS
 nm B248i0B251*2dB254 D,TdB255*4dVj0EL B155eB200*13eB221*1eB226*3eB250eB305l71hEAEGE) o8sy kddh8boBm
 wmM107 qYzRmRczbYcudczfckcrcczfmR:cp4:cpN:chiTY:cnc:c$XTY:cn6TY:cE?Y:cktTY:mM137 WE? BAiHkYTcoP jvk
 YTiKC%D:co6:ckh<:bDRY prE oP:bLIjDDhXprE SEC%D:co6:apLACROPH%hRivhRkcqQel1eDRixiJkmdncnh qfercdnc:n
 hia&NTSlI:dnc:dud:nhh9kcrc:nhhWhtT#SlI:dnc:dud:nhh9kcrc:lIh9nch9T. MNAScH#AEUM kcP&<R%c<ESPkn%EcH#M
 I%I):cEPIDAUhfN hHc<ESPI):cCYR.AhRkqDRixMAScEPIDAUhfNh0TROEZ.knkmlIet2ndcH#MI%knT.cMj0.I):c<ESPI):d
 pNcTROEZ.knncet2ndcH#MI%knncc<ESPI):dudpC:cEPIDAUhfN km:cTROEZ.I)h0<ESPI)h0C,Yhm)h0NAXI)h0<ESPknkcr
 cnh:cigPHhRkm MNASchNATknnc:bkcl1mvet2ndbuJoqwC:bYE,:bT;.T:bDRixMA:bOBOL:bkqOBOLS:bmoh2khh2kmh2METR
 ETES:bKYA<kBBASE:bLIi1:bOUNKIA:bXESTES:b,TABE:b,OURA:bGRlC:bTRYBLI% BASE:bZ#O:bkcqQ:b$NUSOID:b!DInb
 :aNOMISMA:l7190 iY) SjG)S:bUNCIA:bSEMUNCIA:bSjGULA:bDIMIDIAh2$LIQUA:bD.,IUS:bjDN,IUS:bSEST#TIUS:bDU
 P%DIUS:bAS:bC.jmI;:aASCIAqIl71A0 pLojiaU kMl71D0 hoiMkBDISCoYPEDEhNI)dPLUMh1ksdTivOOl6dCAPTihdi7LDd
 oHdHELMiEGAUNT&TdTI,Ad,iXdBOWdhTELDdCLUBdM)AC&SdMivOCKdSAWdLIDdBOOM#)GdC,P.TRY PL)EdDOLIidkLBdSL!Gd
 COLUMNdBEEHihdhTPdHjWdHiSdBjxS &GdCATjAMdEAG&dDOVEdTUNNYdBh5PL)E TRh5V!Ei8PYRUSdROSETTEdLILYdOX lVd
 FLUTEdiCT#dhNA!#d^ AXEdWAVY B)Ddtoshotl72jRLYCkn~(EcBcBHcGcDcIcWcZc<cJcKcQcLj9MMcNNcUcPcKKcRj9TTc)c
 .cHcXl72A0 C,kn~(P2cDcLcUUUcRcLDcA2cQcBcMcOcD2cThChC2cScC-18ckNNcXcNcTT2cPcSScIcEcUUUUcKcK2cNDcUUcG
 cG2cSTcST2cNGcjuC-39cTTcUUU2cRRcMBcMB2j9LD2cE2cUUU3l72E0 COPThREPACT rcSpHp2zScu3dzaETYduddhH:dzZl7
 3hEkuIT;hR~AdBEdKEdDEjfVEdZEdil<EdIhadEL*2dibizPEdh6dKUd#i0TEkUEKSdPilKilEFd#SdhKdIIdUUdj0co5; %Enh
 lIdnclw32D ~YEdo9#N TSEdn8#N:aGO<hR~AHS(BjSK)cGIB(DAGScAIHVUScQjS<R(IUJ(HAGLc<IU<cEIScKUSM(jHUScM)N
 (NAU<ScJ#cURUScPjS<R(ktTYcRAID(SAUILjCIWScW!J(FAIjgIGGWScHWjScO<;ckt qfl7350 kuP#MhR~)dBURdGjBDOIjf
 ZHOIdDZHOIdZAhkDZIhkIdKOKEd&IdM.OEdN.OEdVOOIdPEEIdREId$IdTAmFhKRYdiUOIdSHitOIdYRYdY#UizOOdEFm1T$UdV
 #dY#dY#IdYATdIEdYUdhIIAatokuP#MhR~)eDOIeZATAeN.OEe$Il73jRUG,IThR~;P(BhPcGAML(hFcigT(k8WOcZhPcHOT(Tk
 1YODhwFhC!m3D(MEMcDH;ciBcZUcSAMK(A!cPUcjeEcQOP(RhB(<)N(nrcTOcmESSUmM39F o8ljD#akuP#$)oYAdmFjKKUdGAd
 GUdXAdCAdJAdJIdhkTUdDAkSdDUd<Ai8dBAdFj8j8UmQMIdMUdhIVAdVIjAdRUi3dSAdZj7hOSSAm1@103C8 AUjlAZDiOAUjlA
 ZDAA-2dAUjlAZDAAhOXh7AYA<IhIDAHYAAhqdDAHYAAhq-2dBAGAdBUUMiRco8ljD#cqYqilIdp4dqfl74hEDES#ET wQmmwMp0
 wMAYdOWdWUdYh5HdPh5Bh5Th5Dh5hKEdJh5KAYdGAYdEFdVh5E<d<h5ESdZh5ibdZHh5#dEL*2d.GdOIdEWw7mmwMp0wMAYdOWd
 WUdYh5HdPh5Bh5Th5Dh5hKEdJh5KAYdGAYdEFdVh5E<d<h5ESdZh5ibdZHh5#dEL*2d.GdOIdEWah7Vkn~PEiwThbKICKcFh4Tl
 kcSOiiREcCHURCHcYE(HhrcBIBcDEADcGAGcVOWc<EYcZhMprEcJUDGEcWOEcHA-H(LOLLcMIMEcIFcEGGchBcADOc%cWOOLchv
 cAHcRO,ciBcEhShucIjUhsOAKcOOZEcOILcAWEc,EcORcjSc#Rc,RAYcE,cI)cYEWaOSM)kH~krcB(T(J(X(hFcDEELcRnghT!c
 DH(CAYNcG(F(QAAFhwAFcLA)cMI!cNUUNcimcH(Y(uVA(h4OOmM4A0 zdl74B0 OShu wQAdjBA!dj1BRAo2EHChOEdE!m1HhII
 hadEHjKKhILAmQNAizO!i8dEHPj7j7hOhkEHhkhydEHuShOUdWrDhOZAdZHmB04D8 vjAdjBA!dj1BRAo2EHChOEdE!m1HhIIha
 dEHjKKhILAmQNAizO!i8dEHPj7j7hOhkEHhkhydEHuShOUdWrDhOZAdZHAl75hEELBAS) ~(BEcjUhKcDjMDEcDiIEIcEcFEcGE
 cGJEciIIcJEcKEc&cL&cMjMjM(NJEcOmcQEi6cRREiKhCEjCc<EcUcVEcXEcYcZEcZiIGiIGHlCcKHEl7530 CAUCA$) ;B)kn~
 ;TdBiEGIMdDATdEBdZ,LdEYNdZHILdTASo2YOWDdZhOIRBdh7i3Nd!hIXEYNdDY)dC,dJHOXhaRdLYITdHEYTdQAYdAORditYdi
 7dCYAYdMkKQ,dNOWCdDZYAYdh7KdJAYNd%dTYAYdFirDZAYdCHATdP.dGHEYSjATdSEYKdVEYZdTIWRdiUYdIWNdCYAWdCAYNdY
 AYDdPIWRdKIWlw56F CITmlooVI<KUQI wQAdBBEdBEdCEdhKdDEdDilEIjfFEdGAm957C hOHhOIdIJEdJEhai3dhxdMEdNEdN
 JEizPEdQAdREm958C SEdh6dTEd<EkUVEdXEm9594 YdZEmM597 vjAdBBEdBEdCEdhKdDEdDilEIjfFEdGAm95A3 hOHhOIdIJ
 EdJEhai3dhxdMEdNEdNJEizPEdQAdREm95B3 SEdh6dTEd<EkUVEdXEm95BB YdZEl76hEkd, AoYABldAly13ly16*1ly20*1l
 y21Fly21Mly22ly22Fly22Mly23ly23Mly24ly26*2dA028Bly29*2ly34ly37*4ly44*7ly53*8ly65*2ly69*1ly73*1ly76*
 6ly85*2dA100-102dAB118dAB120dA120BdAB122i0AB131Ai0A131CdAB164dAB171dAB180dAB188dAB191dA301*7dA309A*
 2dA310*2dA313A*2dA314*39dA400qp01qp02qp03qp04qp05qp06qp07qp08qp09qp10qp11qp12qp13qp14qp15qp16qp17qp
 18-VASdA501*5dA508*5dA515i0A520i0A523*9dA534*8dA545dA547*AdA559dA563*3dA568*15dA591i0A594*2dA598dA6
 00*4dA606dA608*10dA626*3dA634dA637i0A640dA642*4dA648i0A651*Dm9740 A701 Amg2 Bmg3 Dmg4 Emg5 Fmg6 Hmg
 7 Jmg8 Kmg9 Lmg9-2 L2mg9-3 L3mg9-4 L4mg9-6 L6dA710 WdA711 XdA712 YdA713 nEdA714 ABBdA715 BBdA717 DD
 dA726 EYYYdA732 JEm9760 A800*7l77jRsO xoA(vTuD nPdl1h0^ iGrUBdBtpm9787 DZrspDwAglKdDEZHrsdD_kofkgg)
 D kodsoEdqUsokz:dF.GrsjAMS HjWdrUGdGtpdrQhdHvAdrUHdH.Gtpds8JvAlm:dLSrsdLZ:dL_kFTdrQhdL_wAlm:d&ZHpYw
 ArjYpDkFTdOvAdrUOEdqUnEdQrjR_mm&Ggmm&GmjwAdR_kofmZkgdrURdTCrs_lKdTSrspDwAdTibrsdT_wAdV_qLm97B2 rUYc
 vJvAcrfiVBILABI; Ck6KcD.T;:cLhYR;:c;VEOL,:ctU Ck6K_wAc^ S_lKl78hECYPRIOT tHuVJAlw808 JOlw80A K(KEcK
 IcKOcKUcL(&cLIcLOcLUcM(MEcMIcMOcMkN(NjMkJjsUcPAmcPIcPOcPUcR(REcRIcROcRUcS(jd$cSOiii9jCcTIcTOcTUcW(W
 Eck5WOlw837 X(XElw83C ZAlw83F ZOaIMP#I; ,AMAhRvNdByAzCdiBdpudlZuQQOPHdhjHdsilw857 qlmvcqYqipClIdp4d
 uderclIlX;MYR.E vNyYZlZcHE<cTwLheEDHcMEMcyQPvdi6SHhC!i9WbwBF&UR%bw9:bu8wpckmmRcp4aNABATAE) ~ok;EPHl
 0okBE<l0oFhZ&<cokiI:cimcZlZcHE<jC<cokYODHl0okKAPHl0okheEDHl0okMEMl0yQPvdi6SHcokhTNl0TAWmM8A7 u8wpbC
 RUCIhiMh2qYkmcxyl78E0 HAi1N vNip<coFhZ&<-hjHciIimcZAYNcHE<cTwLheExcYNcPvdlw8F4 hTNi9WmM8FB u8ckmcxy
 aPHO.ICkn~;FipTcGAMLcigTciIWAUcZisHk1Tk1YODhwFm3DcMEMciBiKMKcA!mcjeEcQOFcROSHhC!i9Ubu8cxychHcmomM91
 F o8syaLYDkn~(BcGcDcEcVcIcYcK*4cRcSScTcUcFcQcScTTc)c.cLYcNNcCmM93F uDmwl79jRM#OIThRuXhR~AjfIizhIWAd
 BAdBA-2i8mQNj8A-2dNEdNE-2jAjA-2i3dhFdHhOSj7A-2dSEhadQAdhkTA-2dTEdTE-2dTOdD(oj VIDJdVIDJ-2bCUR$VE ~A
 jfIizhIWAdBAi8mQNj8EjAi3dhFdHhOSAd,CHAIC:dSEhadQAdhkTEdTOdDAlw9BC FRAnb E&V. TWELF<Sdkcl1cLOGnm RMT
 dIMNcqYzSlIdp4dpNdhiTYdncd$XTYdn6TYm99D2 zzdud:dhHh9moh9khh9kmh9$Xh9n6h9E?h9kth0vrTWELF<dkqTWELF<Sd
 zZlI:ahFROSH<I ~A",
 "l7A01 hFROSH<I ugmFtOm9A05 EdOlwA0C pamwoUqBkioicwcAb~sH(GHAlwA15 CpdJAlwA19 xVH(xsy8L(V(laSSngZ(H
 (KK(TT<(TTT(VHmB0A38oYB,qOCAUD(sumMA3F nnAbp2%EwpbqYxydrcbvrl1mMA50 ublzc^qSl0sW B,cM)G;AMcLOTUShZN
 D(rickdSl7A60 kun8 ,ABkn~HEeheEDHeHE<eMEMeQOPHeimehTNehjHeBE<eTAWeSATeKAPHeiBeKHE<ejeHEepueFEekreAY
 NeDHADHEeoFeD;E<eGHAYNeTE<eZAYNeDH;E<eYODHe<AWe<E<du8encdo5hRtYbo9 ,ABkn~ijeheeiWekvek9eimeES-2eREH
 eBEHeTEHeES-1eKAFelAelHejeeES-3eFEHekreA!eDADeGEEMeD;enreTAHeZA!e<;ehQe<EHeZj1u8eT.ep4l7AC0 M)ICHAE
 ) vNip<cBHE<coFcGHIMELhZ&<ciIimoUUDb~ZlZcZHlZcJlZcJHlZcHE<cTwLXAPHchFPHm3EDHcDHAMEDHc<AMExcY!cAlZmc
 FvdcXOPHcQHOPHi6SHhC!cShTNi9WbvGmwoWdn0mMAEB u8ckmcxybub l5cF&UR%cqBh8ni!lzchdcrgcnHpxl7BhEAVEhtN ~
 (A(AOcAAOc)cA)ck0Ah4Ech4OchMIcImEUUcKEcXEcXjhXVEcGEcGGEcGiIjUJEjCc<EcDEcDiITTEmcFEipcBiINGjMGjhNGVj
 MjMjhNNEcMEcHMEcYjhjhVEi6c&iKcZEhCEcZiISHjhSh6cHEmMB39 vGooT!Y rgofkch8 uba^+6ams+6bkch8ofrg:bkqkiS
 ofkcki:bkckiofkqkiS:a!SCRIPky;iAR<knvNdByAzCdiBdpudlZuQQOPHdhjHdsilwB58zYercbPAHLAVI vNdByA-lZ-hjHz
 C-QOPHdiBdpuuQsilwB78zYercaPS;T#iAHLAVI vNdByA-lZ-hjHdZlZdHyK-QOPHdiBdpuuQsilwB99 qlpHlLEDh0tS_mtfh
 8lwBA9zYl7ChEkujmKhR~ORKH% AdY.ISEI:eiGORKH% IdY.ISEI:eEdORKH% OeOExRBxREBxRGxREGxRDxREDeEZxRYxREYx
 REKxE OEKxRLxRELeELTeEMe)eA.xE .TxE .CxE .YdY.ISEI:e)GdORKH% .GdY.ISEI A.GdORKH% EPeOPeICeECxRQxE I
 QxE OQxRRxR#eASeAESehBxE ibxRTxRETxE OTeBhBmMCjRHhr,knwQAeAAeEBeAMBeECe.CeECSeEDe)DeEeltE:eEE*2eEGY
 eEHeIeIIeEJ*1eAKeUNKeELeELYeEM*1e.YeOeOOvgOwOOEEeEPeEMPe#enW:eESeESZeETe.TeETYeECHeUeUUvgUwOEVeEZeE
 ZSe.Tsb$GNeUSlwCC0 vjAeAAeEBeAMBeECe.CeECSeEDe)DeEeltE:eEE*2eEGYeEHeIeIIeEJ*1eAKeUNKeELeELYeEM*1e.Y
 eOeOOvgOwOOEEeEPeEMPe#enW:eESeESZeETe.TeETYeECHeUeUUvgUwOEVeEZeEZSe.Tsb$GNeUSlwCFA u8nhlIdncduderca
 H)IFI ROH!GkH~AdBAi8dhkThkJAdCAm1hFdFAdDAdDDAjAdRRAdZj7j7hOjKGAi3mQNAdWAdK!NllhIK!NllNGj8hIV(nl Adm
 FEdOcnQSAK!dNA KH%NApeH,BAHAYdTAH;AdT)AdTiqIlwD30zel7E60 RUMI p2zRbu3czbYcudczfbvrl1dqQdo6cuJl7EjRY
 EZIDI ~ELIFipmcPiI<EiKcCIMci7McCHHIMcHH(X(D;cZ;cR(RH(Z(J($NhC!cjehZDi9cZEcEYNcXHEYNcF(VAdt2ndck9hwF
 chFFcGAFm3cMIMciBcUMcimcOWcEWcHAYcYhbETmMEAB tonwpHoG:bpSml:mMEB0 ~hewScYOTx0:l7FhEkuSOGDknvNdqXdBE
 <dqXdoFdilqXdimdZlZdHyKdiBdqXpDsqkodpudlZdt2:uQqXpDsqkodhjH-lZ-D;E<dsidqXpDsqkocu8winhlIdp4dpNdudcv
 rl1csxlZ-D;E<l7F30 SOGDknvNip<coFciIimcZlZcHwLheExcY!mcjeiIhjH-lZhC!i9WcFE<c&SHbv4 hTNbtosucrg:ch8q
 Org:cnZ:dn0ckgoWdn0clTh0hjH:cot:bu8cxybub kqvDSpDh8ScoSsvckqoSSsvScn3oSsvl7F70 kuUYGHUR vNdBE<doF-H
 E<dimdZlZdokHyKdiBdpuuQhjHdsid&SHctoh8vWdrgoWfn0cub B,dkqB,Seh8Sdkh:l7FB0j5ORASMknvNc^:yYlKl6cZlZcH
 wLheExcY!mchjHhC!i9Wbu8wpcxyl7FE0 ELYMAhRvNyYZlZcHE<cTwLheExcY!cPvdi6SHhC!i9WbsxZlZ-YODHl30hEBRAHMI
 oYyb(xzAbzKzyxH(hxcuRLhxeRRAeNNNvliOBHivIiFLU:dIdImFUUdxFdtlbnnAbwYublzcrickdcsW B,cLOTUSj61052 qYz
 RmRczbYcuddrcbzdoUuRnnAb~uRp0EfOvEuRp0EgOb~uRhxj6107F qYJO!#aKAI<IoYybAbxxxMxiJH(xVDHlqH(RH(xsy8xHv
 lvpwann(mHAbvGoqEo5ml:bpk:bqloetQwYugtOj610CD pkoYnol30D0 SORA SOMP.G ~Sj1Tj1Bj1Cj1Dj1Gj1Mj1NGj1Lj1
 Nj1Vj1Pj1Yj1Rj1iWhaHdJj1NYj1j1EjQIHdUHdOHdjQMk0@110F0zel31hECHAKMAoYybAb~A(mEEhw(hF(GA(GHA(NGA(CA(C
 HA(JA(JHA(NYA(TTA(T<AlqAlqHA(NNA(TA(<A(DA(DHA(NA(PA(ho(BA(BHA(MA(YYA(YA(RA(LA(WA(SA(HAvlAdIdImFUUdt
 ldOIbOoeAU:bnnAbMAAYYAmB1136ziqloewYrhoe~LHAvliOEIb~VAAl3150 MAHAJ)I ~(mEEcOcsH(GH(CpdJ(JH(xVH(xsu9
 BH(M(R(L(VngH(RRAoUmHAbvGoqqloesxSHRIl31jRh7RADAoYybAbzKzyL(LxHvlvpxFdwann(r9(xzAbOMbwYvGoqsybS)DHI
 mwoUmHAbnl sOoejGRA p0nl:bSUi1:vEwvoUspukbzdbEKAMoUsfksotbC%T!UmloqqlmwhJ1l31E1 $NH;A s5p2zScu3dzaE
 TYdudercl32hEKHOJKI ~(A(mExM(GGxiJJ(@11213 xVH(NN(T(<(DlqD(DH(N(u9BB(BH(MuoVngH(hxvEiOIdImFwarkcnn(
 mH(lMDAbwYo8sybqloetQvGmvoUSUKUNl32jRMULT)I ~(mEEcsH(@11288 GH(@1128A CpdJ(JJ(@1128F xVDlqH(xsu9@11
 29F BH(MuoVngH(RR(RHAbqlmwl32B0 KHUDAWADI xxxM(GGxiJJ(JH(xVD(RRlqH(xsu9BB(BH(MuoV(laS(HAoUrkvEvpwam
 H(nnmB12F0 zdl33hEiCN<AoYtorkqOybmB1305 ytLhz130F h4is@11313 hMzq@1132A y8@11332 L(hxhz1335 VwJAl33
 3B toB!DUoiaiCN<AoYmH(r9zDjz1347 h5jB@1134B OOwEmB1350 OMj61357 AU paoe@1135DoYPLUTAb~q0rkdricz6LLl
 3366 toiCN<Aund%Ewinhd$Xhz1370 ~AhadNAdVIi8l34hENEWA zKxM(GHpfNGH(CpdJ(JHpiNYH(TT(T<lqlqH(xsNH(u9BH
 (M(MH(Y(R(RH(L(LH(WwJvlvpxFdwann(yb(mH(r9(okrkbOMb$DDHIbwYn2bGAP pxbvGoqzdbqBn2boLHjF#oe@1145D !S#k
 yoqS)DHIoe~q0rkoUxzAl34jRTIRHUTA )JIbzKzyxHvlvpxFjfnW:djBOdnW:dAUoUybtRmH(r9AbGV)GbvGoqOMj614D0 zdl
 35jR$DDHAM zKzyxHzDjz15B8 waybtRmH(sfwYsylzcB,bREPETIkymwhJ2bqeTjGoeqlmw_hhD.TmjUsbsCSgqvsWSeRAYS+3
 gqvrigqvpO:dqBkipDRAYSdn5qBsWSepO:etb:eSEPTUP&:eoSSmjRAYSgkq.ltUhjgkh:b~mo-oS t2 IchH-oShWjut2 Ubnl
 mvhWUUl36hEMODI zKzyxH(hxvEvpxFdwawctR,DHApRbwYvGmvoUHUVmB1650 zdl3660 M%GOLknoN_sCbrzoNbqBoN_sCbpO
 hXoN_ribrzoNqkeribspoNdn5qBsCbSWIRL oNdn5sCeriblLED+5l36jRTAKRI xxzyL(V(laS(H(RRAoUwcvlvpwann(mHAb~
 s5hFbvGoq@116C0 zdl37hEAHOM ~K(KHpfN(T(t2:cu9M(Jpd<(R(L(SpiH((D(DH(G(t2:cGH(BH(JH(t2 BmB171D wUq7 L
 AeRAeLIGAT!G:vEAdvpEdAWizjBAMoUKIL&Rj61730un",
 "l3731 AHOM p2zRbu3cp4oU^ qll0RULAIboj VIb~C(TT(T<lqlqH(NN(hxl38hEDOiC xxzyxH(RRzDdwawctRmHAbvGmvl3
 8A0 W,)G CITI wQNGAAeAeWIeYUejXYOeIIeUUeEeOe)GmhKOe.YeYUJeUCe.NeODDeTTEeiBGeDAeATeAMeBUePUeHIYOeHOL
 OeHORReH,eSSUUe$IeVIjYvjNGAAeAeWIeYUejXYOeIIeUUeEeOe)GmhKOe.YeYUJeUCe.NeODDeTTEeiBGeDAeATeAMeBUePUe
 HIYOeHOLOeHORReH,eSSUUe$IeVIjYp2Z#OdzScu3dzaETYhz18FF OMaDihS AjbU ~AdvpEjz1909 Ojz190C KrDxNAjz191
 5 NhIThk@11918 DDAdDDhOzEhIYyXhxdZ(yMEe@11937 AIeOhz193BoYrkdukdH;)TtRPREFIXh1NAS;mvcq7 Y(qa R(rqpe
 mH(qBD)D(GAP pxcqeTjGpH@11950zel39A0 N)D!AG,I ytRRhz19AA zyxH(hxcRRzDjz19DA wawctRr9(sfksotvEwvl3Ah
 EZ)ABAZ, qZ~(ugIeUEeUeEeOEeOeAIeAUesoIdpapH~KrDxNj8xvzEuSZAdDZhOZhOZAd-AdyXKSS(oktdmwpennAdukpYsCdp
 Rh9rkdph(CLUST#-qa ~R(CLUST#-ok~jXRAeLAeV(qa kspHlt!Gh0nQTh6GdlMdridmmTh6Gcqa oT-kdD kspHlt!GhcjvJO
 !#l3A50 SOYOMBO ~vlIdjpUjfOdOEdjBjPtOeLcpaoe~sHxiJH(xVH(xsu9BH(Mw1(ZH(Z(-uoVwJ(KSSAoUxzAbCLUST#-q
 a ~RAi3dh7dSAbokwUGeKeNGeDeNeBeMeReLeSHeSe-AoUwcAbGEM!mloejvJO!#bnQTh6GclMcricPLUTAbksmw_MO%mjSUNmj
 qbFheEgSUNlm:gSUNbT#M!;mwhJ1l3AB0 xgNivILIK HIdHIIdjyHOOm1HiOSHRIdSHRIIdSHROdSHROOdSHRj7HRA(SPEcSPI
 cSPOcSPAaPAU C! HAU ~PAeKAeLAeMAeDAeZAeVAeNGAeHAmhhFeSAeBAeCAeTAe<AeNAehoeRAeFAeCHAeAeEeIeOeUeUAeIA
 eokPfKfTfMfNfLfWfNGfYdRIS>nOlTfdS)DHI vJdRIS>nOmmF!;f:dS)DHI vJ:enOlTffmmF!;f:dMID-&VEL m5dvJ lf)Td
 MID-&VEL nOmmF!;f:dhg-F;L>nOlTfdvJdhg-F;L>nOmmF!;f:dvJ:l3ChEBHAIKSUKI ytRRdLhz1C0A zyxHzDeLjz1C38 w
 aybtRr9AbwYo8sybGAP pxhJ1j61C50ziqYzRmRczbYbqfS kYTmwl3C70 M,hKN ks:bnQlMb~sHyvu9Mw1(W(ZH(Z(-uolaS(
 H(mB1C92 uN~KrDj8GAdCAo2Jj8hIhk<AdDj8Ai8dhodBAmQuSZAdWAdZhOZAjz1CA9 hIRAi3dh7dSAm1vliOmFEdOoUrkcukl
 3DhEMAS,AM G%DI ~AdvpEjz1D08 jBOjz1D0B jPKrDxNAdJhONxvzEyXhxdKSSAdJNhIi1cyMtOe@11D3A Ee@11D3C AIeOe
 @11D3F AUperkdphj8UKhkpRdH;)TtRREhocRA-K,(@11D50zel3D60 GUNJ;A G%DI ~Advp@11D67 h5jB@11D6A OOdjPhIV
 AdBAdBhOiJjKhFdhk<Ai3dGAdGhODAdDhONAdCAo2ThkT<AdhxdJAdJhODDAdDDhONGAi8dhom1Rj7(yM@11D90 EEeAIe@11D9
 3 OOeAUperkdphtROMhz1DA0zel3EE0 Mk4S, ~K(GpfP(B(M(T(D(N(C(J(NYuoVngAb)GKvlmFEdObPiqIMB)Gbqeqll3FB
 0 LISU ~YHAl3FC0iaic vrmo-qf-)D-TW.jk<d%E-qf-)D-$Xjk<dE?IE<d$XTY-kh<dhijk<dpN-SEC%DcpEE?IE<Sd$XTY-k
 h<SckcTW.jk<dqr<hJ1lI<dE?HcpETW.jk<Sdqr<SckcFIF<dqQdl1hJ1cwCckfSC;>FAmS KIIZHoUNELcCEVITUcAAZHAAKKU
 cUZHAKKUcMUUVUZHAKKUcjbkYcPA<AKKUcMUKjbkYhwACUcP)AMcP%cV,Ak4NcPA,AMcKUZkCVELIbWET CULTIVmloqDRYh2L)
 D:bS;TiAN:bi1DIky; CREDIT:cpk:bCURR.T:b)D ODD:bSP.T:bTOT;:b!jwSSj0I%:bl5T>FiY:oUMU<;IY(Vk4IY,AmB1FF
 F ub qeTjG"]

end TypedTemplate.Text.CharName
