/-! Names of cuneiform signs, hieroglyphs and other signs of ancient scripts. -/
namespace TypedTemplate.Text.CharName

def pictures : List String := [
 "hA20hECUNEIhiMoYAtJmfuBHAeIGIejH, lceMhqeSAGcA2cABqGhB2eDUN3 lceG;euBHAesNeIM!ejHABeh6SHeUoZUoZUpc
 AB2qGB;AGeuBMEoZ.eh73emPcADcAKqG#!2ehTTqzmKc;qG;eDIM2emKeHAeKAD3eKIeh6ehqc;)c;EPHcAM,qGh6c)or)pC ja
 ESdkp NAGA kQOS>)oZNAGAfocDc)h6cAP!c,ADqGjbc,KABcAS;2chBdZIDAo1haBllnshB TUG2ofTUG2 TUG2ofTUG2iAPfn
 shBghB swhBofhB l9:chB2chBGABcB(BADcBAG3cBAH,2cB;orB;cB;AGcB,cB,A2cBItJG,esNcBUorBU ABfUNdswBUcBULU
 GorBULUGcBhnBUR2hZhZGdKI$M5qFqzMhBfAM,fB;AGfBIfGAgkp MhBfGIfGIR2fGUDfHAfIRgkp LUfKAKfLAfLUgkp MhB2f
 LUMfNEfPAPoZPAPf$fmPfU2oZGIR2fhqhZMhZRhZRA3hlDIcDIBcDIMqGh6cDIM2cD!dpm U lc mYl0DUorDUdlcdrPcDUBqGm
 TcDUB2cDUGcDUGUDcDUHcDUNcDUN3dlcelccDUN4cDUR2cEqGPAPorE iBofiBcE2qGqzHqzDAeG,eMIeS;eh6eUcED!cEGIRcE
 Lc.qGG)2fT.UeMEdsw.vfocDc#.c#!2cmTcEZ.qGAoxL;gL; jaES:e)emfDUN3 lcglceHAflceIGI:epmfocDeKU3eLAeL;qF
 L;eLIeLUeU2eUDcGApcGA2qGqzDqzHAg:gIGIeAB2o1oZTABe)ehBehB2oZG;emfB,oZRAeBURoxRAeDAeDIeDIMqFh6eDUBeEL
 oxLAe.fpZuBhWG,eGIeGI4oxAeGIR2oZSUeHqzLUoZmTeH;oxLAeHIoZLIeHUB2esNeiRoZHUoZhBeKAKepmeKIDoxL;eKU3oZ)
 eLAeMEoZ.eMIeiBfnsiBePAeS;eS,eh6oxjmehTDeSUMemPeUeUDoxDUorGA2cGABAdswGAB(GADorGAD G,ofG,cG;dyPcG;AM
 cGAMhlG)2lIUorG)2dmtplG,cG,3cGhB)cGibT!qGjbcGIqGEeUdswGIcGI4orGI4dmtplGIDIMcGIR2pcGIR3qGqzIGIeuBIGI
 eLU kp:eP(GIS;cmKdswmKqGmfmPlIUcGUdswGUcGU2qGKAKfpZsNeiBeS;oZTUG2pcGUDqGqzjbe:orGUD LUG;cGULi0pZh6c
 GhnGUR7cGURUNcGURhqchOT.UpcH;cHIqGhBehB2emfmYeGADeK!eiBeh6eUcjgHUB2qG)eH;epmeLiReUDcHUL2cId(IBcIDIM
 orIDIM BURfocDcIGcIGIkSBdRIorIGI hTRofhTR UDofUDpcILqGG)2o1cIL2cIMqGmPdswIMvfocDcIM!c!cIRciRhwtJADo
 xKU3ehB2emfB;AGeB,eBIe#!2emTmhG;euBG,oxh73oZAeGIeGIR2emKoZS,fswmKeGUeGUR7eIGIeIMeKAKeKIeKIDeLIeLUeM
 EoxDUgGIgTEeMIoxiBUZeNEeiBePIeRUeSAeS,eh7eh6ehTDeiZe$GeSUHUReT,eUeU2eUDeUMUMqFPAehqeZIhw2dswKA2hwBh
 wD2*3orKAD5hwKqGsNhwLqGBADdswK;hwM2hwM4cpmi3GABqFUofjHABqFUorpm+7cKmTcKIqGmfUeUDcKIDcK!cKIS;cKiRcKI
 $M5orKI$M5cKUorHIuG2 KUofHIuG2cKU3i0vKcKU7cKULpcKUNcjbdkQOS>jbcKhqU2cKWU318cL(jHABqGAoxDqzHAgG,gL;e
 ;e)ehB ZIDAo1emfBIeD,e.mhG,eGUDoxGUDeHAeH;eHIqFiBesNeIMoxHAgLUeKIeK!eKU3eKULoxHIoZAejHABeLiReLUeLUL
 eMEox.eMhqeNEeh6oZSUMehTTqzmKoZ#!2gmKo1eiZ2oxiZ2eSUMeTAGemPeTEoZqzSUoZNAeUoxAgUoZUeU2oZhBeUDehqdocD
 cjH,qGh6oxSidlcensjH, lc h6cLAHiZcL;qGL;m3qGjboxRUcLIcLILcLIMMU2cLiRcLUqGBADcLU2qG;emfmTfT.UeG)2:eH
 IqFmfIMeKAD2*1oxhBeKIeLqzhBejHABeMEoZ.eNEeNUe$oZhBe$K2oZBUeTUG2lIUdswLU2vfocDdrPcLU3cLUG;orLUG;vfrP
 cLUHcLULi0nsLUMfG,ofG,ciJpZmPpcMA2cMAHcM,cMhBcMhB2cMEcMEScMIcM!cMUorMUcMUGpcMUNjvcMURGU2cMhqtJjbeZA
 orMhqfpZqzNAdswMhqcMhq3qGAoxDIe:pcN(NA2cNAGAdpgEDqGiZo1dkQOS>NAG(NAG,cNAM NUTILLUdcNAM2cNEtJUDdrPcN
 IqGjMI2cNIMqGuBG, kph0N!DA2qG)ehBoxhBeGUDeMEoZuBNEeiBeh6oxA )ghBghB kp:eU2hWhqcNISAGcNkNU11ciBi3G,q
 FG,fMhBfS;gnsiB jH,qFS;fhqlIUoriBdmt!G:fjH,ofjH,ciBUZdAB2uGGABfBIfDUGfGUDfsNfKAD3fLAfNEf$LA3fU2dKI$
 M5qFBIgUcP(PADcP)cPi2PmTcPItJABeBIeBUeEeIeIBeUeU2dswPIcPIRIGqGK;eUDeZAdkQOS>PIRIGcR(RABcRIcRUcS(SA
 G NUTILLUdtJDUeDUBeHAeKAKejbeLUMeMIeiBeS;ehTDeTABeU2eUBeUMeURehqorSAGpcS;i3GABuG2cS)GA2cS,hC(h73tJm
 fmKeNEeiZ2ejmeUox(h76hCAB6hC,2hCEdHUorh6 yPfTABofTABhch6G9hC.hCibhCmThCibhehCIDtJIMhCIMtJB;eBULUGeD
 !eG,eIGIflceKhqU2eLULeMUGeS;hC!IGhCIRlIUorhTR BURofBhnhTT(iZorspiZhCU2hCUBhn$pc$Gc$G4or$G4 iZ2c$K2c
 $LA3iiorSUiiDiiD2iiHhnSUMiiMhBiiRiiR9i9drpqGHIeMIpcTABorTAB NIofNI mYofmYdocDi9GqGBIeGUDeh6eiZeTUG2
 eUDcmPi9RjCpcTIlIUcTILcTIRqGmPorTIRfyPcTUcTUG2cTUKcTUMcjmorjm ZAofZ(UdGUDdU UorUiAofPA G,ofG,fSURof
 SURfU sonsU rfcU2cUBcUDdKhqU2qGmfMIeUoZUoZUgUoZU lcd:drPepZBADcUDUGcidpZjHABeMEoZDAeh73eUcUMB!cUMid
 pZpmeP(UNpcURdswURdrPcUR2qGqzHAgNAe;eHAeiBeU2oxhBgBIcUR4cURIcURI3cURUtJhBGABeB,eDUNmhG;euBG,eGUeHAe
 IGIeIMeiReKIeLUMeM!ePAeh6e$G4eTUeUoZGUDeUDeURUD(:qGUchqtJKUejbemPchqXchq2chqUMXcUTUKIcUZ3qGpmcUZUcZ
 AlIUds0pZjbcZAGcZAMXcZE2cZIorZIcZI3cZIBhaBAo1cZIGcZIZ2cZUcZU5qG(ZUBhnZUMhwP EheITEcABqFiBcAB2qF(AM,
 qFKUGhZG KI$M5qFU2oZMhBhZG3cmYoZiZcDUBqFh6cEZ.qFGUDeh6cGA2qF)oZKAKoZAehB2cGE22cGIGcHhqhwqF)h6ehB3em
 KeGUDeHIuG2eLUMePAeiZLeTUeUR2cjHABqFGIcLU2 rPqFBADqGmToZL;eiZcMibcMhq3qFZ(NA4cN!cN!9cN!DA2qFB;eGkJU
 11 rzktTY pvScPmT rpcPIR2cSAGqFsNcTI2cUMqFMEcU Uj624hEo5ICoYkqhBdzZpC mYdkh:y3E?:dkt:dnSUy3E?:dkt:d
 kcGmTdhH:dzZdkcGibUdhH:pC:dkh:nh:dkqh7R2pC:fvKdnSh7R2y3E?:dkt:dkch7RUdhH:pC:fvKdnSh7RUnh:dh7R2qFG;o
 ZmYgkp M!dkcBURUdhH:pC:fvKdnSBURUnh:pC vK ib16gmT1dnSvK LIMMUgLIMMU4gLIMMU Ai0$X vK hB9dn6 vK IM!3g
 IM! Ai0E? vK USSUgUSSU3dkt vK ILIMMUgILIMMU3*1gILIMMU AdkqhBo1pCh9khh9kmh9$Xh9kcB)2dhH:pC:dkh:fvKn
 h B)2fvKdNIGIDAM!dNIGIDAibdkcibE3dhH:dkco6 mYduJ:nh $X<S:dkco6 vK AduJhdkcE?H hBeqQ:dkuiqYRknkc$X<g
 qQdkcqQ GURel1:dEheITE kco6euJehiTYencdnSU vKnhhd$Xhdn6hdE?hdkthX@12470 uboYkuiqYRkno8ljD#dsqnPdsF:
 ehhnPem2nPj62480oYABqFiBo1eiZ2cADqFmTcBADqFmYo1cBAH,2qFAB2eNIeZ(BUofBUqFNA2hZqFmPhZGqFjbcDIMqFIGIe
 U U UcDIM2qFUDcDUGqF)h6ehBfjLkbeD!eDUNe#!2mhGIeGIR2 lcemKeHAeHIesNepmejbeKhqU2oxpmeLAK-020ehefpZjbe
 LUHoZmKeMhBeMESeMIeNIePIeh6e$ lccE2qFjbePi2#!2 XcmT swmTcEZ. rPuGfHIfsNfLAfL;fMEfMESfSUdh0GA2qFBAH,
 2eDIM lceDUGqFIGI:gpme#.mhG,oZDIgNEeHqzAeKhqU2oZpmehefpZjbeLUHeMhqeNEoxE2gGIehTMeZIZ2cGABA rzktTY p
 vScGibT!qFUcmKqFmK swmKcGU2qFsNcGUDoZmKqFmPcHAo1 lccHIuGofHIuGhwqFBUeKAeU U UehnjHABqFZUofZUn4003n4
 021n4025n4030n4050*1n4062n4079ofLAK-079 lcn4080n4081ofLAK-081n4092n4130n4142n4210n4219*1n4225n4228n
 4238n4265*1n4343n4347*1n4383*1n4390n4441n4449qGGUeIGIePAPoZLU3gPAP kp:eU2oZBAn4450n4457n4470n4483n4
 490n4492*1n4495n4550n4608n4617qGhBemfDUN3 lc lceKU3eLAeT,eTEeU2eUDeURUDAn4636n4648qGDUBmhIGIflceNIe
 PAPoZPAPoZLU3eh6SHoZKIeUDeURUDAn4724n4749cLU2 lcuGqGmYeH;ePAPoxPAPoZLU3emPcMIoZZA7cMhqofMhqqFGAgKAK
 cN!DA2qFDIM lcemKeGULeHIeKmTeLAK-050eMhBePAPoZPAPeUoxUeURUD(SAG lcqFhOpZ.eh6 jLkbemPhCA6o1hCEofh6dk
 p HUB2eNAM2eS,hCU2oZDUGqFNIeE2qF)c$qFmPcmPoZSAGcTUMqFuBpEmYcUR2 pgEDqGUDcURUqFD,A3eLAK-668eLU3cZA7c
 ZUofZUoZS,cZU5qFpEmYo1hA2F90 CYiF-M!O)oYCMld1mD04*8mD12BmD13mD15mD17mD19mD21mD23*7mD33*8mD44mD46*1m
 D49*7mD58*6mD66*9mD75BmD76mD78*EmD94*BcCM107jqCM112cCM114cCM301*1hA30hEEGYPTknuX Ald4cA005(A006cA00
 6m6A007*7cA014(A015j9A017(A018*EcA032(A033*7cA040(A041hlA042(A043cA043(A044hlA045(A046*18cBld4cB005
 (B006jqCld1cC002Aj9C003*7cC010(C011*DcDld7cD008(D009*12cD027(D028jqD031(D032j9D034(D035*BcD046(D047
 hlD048(D049hlD050A*8cD051hlD052(D053hlD054(D055*CcD067A*7cEld7cE008(E009cE009(E010*6cE016(E017cE017
 (E018j9E020(E021*7cE028(E029*5cE034(E036j9FkacFka(F002*BcF013(F014*7cF021(F022*9cF031(F032*5cF037(F
 038cF038(F039*6cF045(F046cF046(F047cF047(F048jqF051Aj9F052hlGld5cG006(G007cG007m6G008jqG011(G012*8c
 G020(G021*5cG026(G027*9cG036(G037cG037(G038*5cG043(G044hlG045(G046*8cHld5cH006(H007hlIld4cI005(I006
 jqI009(I010cI010(I011cI011(I012jqKld7cLld1cL002(L003jqL006(L007hlMkacMkam6M002hlM003(M004*6cM010(M0
 11hlM012A*7cM013j9M015(M016cM016(M017cM017(M018*4cM022(M023hlM024(M025jqM028(M029j9M031(M032hlM033m
 6M034*6cM040(M041jqNld11cN018m6N019*6cN025(N026*7cN033(N034cN034(N035cN035(N036hlN037(N038*4cNLl
 d2",
 "hA3223 EGYPTknuX NL004hlNL005(NL006*BcNL017(NL018j9NUld9cNU010(NU011cNU011(NU012*6cNU018(NU019jqNU
 022(OkacOka(O002jqO005(O006cO006A*5cO007jqO010Aj9O011*8cO019(O020cO020(O021jqO024(O025cO025(O026jqO
 029(O030cO030(O031j9O033(O034j9O036AjqO037*DcO050m6O051cPkacPka(P002hlP003(P004*7cQld6cRld1cR002(R0
 03cR003m6R004*6cR010(R011*5cR016(R017*CcSld1cS002(S003jqS006(S007*7cS014m6S015j9S017(S018*8cS026m6S
 027*8cS035(S036*(Tld2cT003(T004jqT007(T008cT008(T009cT009(T010hlT011(T012*4cT016(T017*FcT032(T033cT
 033(T034j9Uld5cU006m6U007*10cU023(U024*5cU029(U030j9U032(U033*9cVkacVkaA*8cV002cV002(V003*4cV007m6V
 008jqV011Aj9V012cV012m6V013*7cV020A*BcV021j9V023(V024*4cV028(V029cV029(V030cV030(V031cV031(V032hlV0
 33(V034jqV037(V038j9V040(Wld2cW003(W004*5cW009(W010cW010(W011jqW014(W015j9W017(W018cW018(W019*5cW02
 4(W025cXld3cX004m6X005hlX006(X007hlX008(YkacYka(Y002*6cZld1cZ002AjqZ003cZ003m6Z004cZ004(Z005cZ005(Z
 006*9cZ015A*8cZ016cZ016A*7cAAld6cAA007m6AA008*18hz3430 sqJO!#ctq:c!S#T jLlPl5Teou:elP.Deou:cpPY pFi
 pG! SEGlGc.D:hA44hE)ATOLknuX Ald9cA010(A011*FcA026(A027*CcA039(A040hlA041(A042jqA045(A046cA046m6A04
 7*13cA066Aj9A067*1EcA097(A098cA098(A099hlA100(A101cA101(A102cA102(A103hlA104Aj9A105cA105m6A106hlA10
 7Aj9A108j9A110m6A111*4cA115(A116*9cA125(A126*9cA135(A136*42cA202m6A203*4cA207(A208hlA209(A210*5cA21
 5(A216cA216(A217*(A227(A228*27cA267(A268*15cA289(A290*4cA294(A295*4cA299(A300*9cA309(A310*13cA329(A
 330hlA332Aj9A333jqA336Aj9A337*16cA359(A360*4cA364(A365jqA368(A369j9A371(A372*9cA381(A382cA383 RAlER
 IcA383(A384j9A386(A387*5cA393 E?cA394*FcA410 BEG! LOGnmpHA410A .Dh0A411*27cA450(A451*6cA457(A458*27
 cA501*1DhA68hEBAMUM ~hoSE-AkDKUE MF%dGBIEE F%dP% MF% PIPkAGBIEEfPIPkABj8AA MF%diZ.iZiETITA MF%dNZll
 hTNDAiA NJIdP%iA NJI PIPkAGBIEEgPIPkABAdMkABGBIh5TU MkABj8G)GUdMkAVlhM)Sm0MVjt.GirSEUNYirNTOQP.dKEU
 KEUTNDj8K!DIdSUUdNGKU.ZEidLAPkK&T KUTdNTAP MFiOMAEKEUPi8h7EdGHjt#iGPAMh7EdM%kDGjtiENZUN MEUTdU YU
 Q NiGGHjtEGHEm0NTAP NTiO$SAdMGBASAdMEUNJOMNDEUQdMOOMPUQhaFAi8 &#AEWj8DllPiEMkAKP.dNIjKPUPdTUAEPdLUA
 EPdS%JirTEUTEUW.dMA.YIdKiENDA)GGjtiEKUOQdMOOMEUTdiZMdLOMMiGFIRIdiYdKPOQdSOQdMAP PIEiEhTRiGNTAPdiU
 Q NiZT YidjET M%GKjtEQi8,iGNKA,iGUNKNOWNlv.dMAE$dNJirMB)YIdNYiETjt.dSOTi8irNhTlWkAdjEhaQdNh7dVh5LUd
 N.dNkKMBAQchoSE-B NiZiETU MkAGBIh5$h5SET TUdLOM NTEidMBA MAE&EdKIEEMdYEURiGMBA,iGKirPEibIdYAFU &#AE
 WAi3M NiZT NYirNjkE h6UOQdNDU NJiOGHEUGHjtEMdPITdTU N$h5h6T NJkKh6UAEQTUdMF% TjtEQdMBIT MBAAKiEjE N
 TEidKEUPUQdGHEUGH.dKEUYlhLA)iGP,idVEidNGK!DI MVOPlvEU MBUdWUAiESAKEm0TAirMEUQlvUOQemsdMFIYkKSjpMBEU
 RIdM%jk.dNYkAiGPhrAirMEUTkDGEiEFlhMBUOQdFh5KjtEMdMA NJjt.AeNJUQAd&TlvAirNS.mQKIQdNGOMchoSE-CkDKUE M
 kABj8ZAdYidW)GKUOQlv.dNDjt#h5NGKkKGH,iGMBEEKEiEGBAYIdjER MKP,AQ MEUNdNTU MBITdMBEidPIRIE.dNDOMBUdMB
 AA CABBhu-TRh5KEhqjtEPdGHAPdKEUKkKYU MUOMiGNZEidMBjpNSjt.dMBITdYEUQdKP,kKKiOSlhNDIDAdTAhBiGNJUEQdTI
 TA YjpSUAETlvUA. NYirVlhN)S)kKMA Kjt#IdNTAAlvU%i3PdMBIRIE.dMGBASkKNTEhrBAdTEUTlhNGGidFjpNDEUTdNSj8h
 7QdBhrdVjtEP.dMB#iGRUdNJkAi3MdTITUAEPdNSUOTkDOMdNJEEh5KETlvUdMAE$dMBUkAdLUdKUTdNJirNGOMdWUPlvUEiENS
 OMdNT.dKUOP NKA,iGNSUNdNDirMA N$h5YiONDAPdiZEQdSETF%dMBIdMkABAdMB)YIdKEUSlhMBlhKEidMBAA PICKiEYUWOQ
 dNJlhMIlWm0hTQdK. LAWeFATIGjpNGkKNkKLIQdP!dP.dTk1hoSE-D MBUOdWAPdNJIdMF%dNJIh5LIh5NJEUTdNh6ElvAAMiG
 NYirWUA.dNGKUNdh6EdNGKAPdKjtETMEUNdTEUTdh6m0NJAPdSjpKiEYkAMiGKUOMdSAPdMFEUTdNDlhM;E#IdMEUTdSjtEQdY.
 dNJjtEMdKEUOT MBm0NGKEURIdTUdGHiONGKYh5FEUFjtiENDlWGBOFid&UAEPdND%dM%IdMGBEUNdPUUTdMGBIlWFOdLidN$EE
 PdMBiOKWAiENYiETjt.dSOTdYUWOQdKEidRkAdTEEh5NGKjtEQdMFEm0N$EiEKEUPdPIPdPEUTiGNYjp&TlvAirMFIEElvWA.dY
 UOMi8PdYUOPdNDirNTEidSm0KUNlvlhNGKIh5TUOTdMEUNdKUQdNSidTEUNdMA.JETlvAPd&UMlvUOMdNiZTdNJUEQdGHEm0KUd
 R. jFdTiGTOQdjEdRIId&ElWEElWdSUUdMUdhTIdSHlhKYh5NUdiZdNTh5Ph5NIdiUQdPUQdMVOPdLOQdR. MUCHdTIdNTUUdMB
 AA n6dSkKFA(hoSE-E NDAPdTO%dMBEidLAPdVOMdLO%i8j7OMjAQdNiZOPdNDUNdPm0TirNGjKKPlhWUOdSEElvjtiEPAirTOO
 dKUOPdLOMdNhTh5NGOPdMkAdNGKlhNGOQdNiZEdRIMGBj8JlhPEEMdSAAlvURiGMGBAdGHlhNGKjtEMdNJkALIdMAPdLOOTlvEE
 h5NDIQdTA. NTEidSiEPidNDAA mdNj0lvUAibAE NYirYIh5GHEUNdTm0YEm0POdTUMiGKEm0SUA.dTjtEQdVEm0WlhLAirPUd
 TAkKGHAAMiGNGEUREUTdh6UAEQdMGB.dMBh5NZkKNKOMdGBiETidKUiEYAPdjE C&AV#dYITdMFEUQdNDIkKPIEEQdYUEQd&UkA
 dFjpGBlhNGKUPdKiEMiGNGKAAMIdGHiEFj8TidPEUTdYEUMlvEm0jE r3dNZUQdPO%dMIh5FUiENiGMm0GHEm0FU IdMVIdPUkK
 NGKidKUTdPIiENTAPdYjtETlvUPi8 PEOP&dFU C;LdFOMdNJh5AdTOQizIi3Qi8 PLUR;dTiOTkKNDAA MY kGSEdhTQdYlhNG
 m0YUA.dYOQ SWIMM!GeCl9dYUQdYUNdKlhPlhNJEE EPOCHdPjpWjpFh5Vh5LUdMIdRlhRiGNGUAiENGj7jyiUQdFUikMEDYdNA
 dPIdLOQdKOdM.mQMkKTEUdKIdM%lIdFkKGHOMchoSE-F jKUdKUdh5Rh5TiGjEi3dRIIdRIlWEEh5TiONDiONJkAdMdSUUdhTId
 $dSlhKYh5KiENm0NUdNJm0YOQdiZdhINh7dPlhNTh5WjpPh5RUdNIdRlhK.dNGKWA.lvj7jyPm0FOMdWAdLIdLOQdKOdMB.dR.m
 QMOdMBiOTiEKPj7AMBAdVUEQhA6A40 MRO ~T(NGIcjYMIMcB(D((PkChFIcHAOhZIcCjgKEAk0OLcMkAcN!cP(hMOcROhCIc<E
 (E(W(EcKOcL)cL(HisRIjCKj66A60zi@16A6E D)DAbriaT)GSA ~OZcOCcOQciDAZcACcAQciNVZcVCcVQcVXcEZcECcEQcieI
 ZcICcIQciyUZcUCcUQci5AWZcAWCcAWQcAWXcUIZcUICcUIQcUiyokNGcmmUiep0UEZdAWXcUECcUEZcUEQcUieUIUZcUIUCcUI
 UQcUIi5MZcMCcMQcMXcsHpfS(Y(W(PpihocB(M(N(H(L(HT(T(D(R(NH(laC(hycGH(HTT(<(X(F(DHpdZmB6AC0 zdhA6AD0 B
 iqA VAH ~.NIhadSEdFAdMBEdYIEdGj1DHIIdKPj1JOdHWj1WAdZOdGBUdDOdCEdUWUdTOdBAdVUdYE!i8dWADDAdAizOOkUh5E
 dIhz6AF0 ton1m5dhg:dMID:dhg-MID:dlk-hg:ctEhA6BhEPAHAWH HM%G nl KEEBdKEEVdKIBdKIVhaUBhaUVdKUBdKUVdKE
 BdKEVhaIBhaIVdKOOBdKOOVhaWBhaWVdKUABdKUAVdKOBdKOVdKIABdKIAVhaBhaVdKWBdKWVhaABhaAVctd VjPNhyUi3UdHjP
 NLjPRjPNKjPQHjPYjPHLjPMjPCHjPNCHjPHNjPPLHjPN<jPNjPjPXjPCAUcnQCIM TUBeSOeKESehFVeSUAMeHOMeTAUMpeVkB<
 OMeTh7B CEEBdCIMj5EEMdVkB<IABeFEEMdXYEEM NTXIVekMeTOVeFAIBdVkBSEEVdMEEJ SUABdVkBNRUAdIB YirXAUSdCI
 M TSOV ROGhz6B50zehz6B5B u3SdqfSlI rcSdicLI%Sdqf:lI BILLI%SdhhLLI%Shz6B63oYVkBLUBdXYOOdHLIdo6-htGE:
 dZWJ <AJdHNUBdNQIGdXIABdNTUJdAVdTXHEEJ CEEVdMEEJ TSEEBdTjPLOSdMUSdCIM HAIS LUS NTOG NTOGeCUAM TiUOJ
 eTXWVfCHWVePUB DAWBeNhj TOShz6B7D CL)oYTh6EJeYEEGeLISeLAUJeXYOOJeKOOeHAWJeMUASe<OJehyBehoBehFBeHAMe
 VAJeFAJeYAJeTSWBeKWMeVWJhA6E40 MEDEFAIDR! wQMdSdVdWdATIUdZdKPdPdTdGdFdIdKdAdJjfBdCkUYUdLdQdHPdNYdXd
 DdOEdNdRizjBYw7MdSdVdWdATIUdZdKPdPdTdGdFdIdKdAdJjfBdCkUYUdLdQdHPdNYdXdDdOEdNdRizjBYbzdbqYzrbp2kct2n
 dchHh0moh2n2usoj AIVAbue OHhA6FhEMIAO ~P(B(YIiAcPL(M(MH(s5M(F(V(VF(T(D(YI ThkT(TTlq(N(NH(YI NN(s5N(
 NN(NNH(L(LY(LH(LHY(TLH(DLH(TLHY(DLHY(K(G(YI K(Q(QGpfNGH(s5NG(H(X(GH(GHH(TSS(DZZpiNYH(TlaDZH(YI Th7d
 DZH(REhiMh1TlalaSS(ZH(ZlahycDZ(YI TSngZ(ZS(ZZ(ZZS(s5ZZ(ZZY(ZZSY(W(AHcHH(BRIcSYIcDZYIjCcTjdRTEj66F4F
 oYtd sO B,b~NAS;IZmloUAmemli6hiMh1mX!GdAmemlvEAdiOAHHd)d)GizOOdWOdWjf.d.GdOEYdIdIAdI)dI)GdIOdIEdIId
 IUd!GkUUAdU)dU)GdUUdUEIdhrdYdYIdiGAh5#RdnUl6d#dnUl6djBEIdjPOUdNdNGdUOGdYUIdOGdO#dVWdIGdEAdI%GdUIj66
 F8F nOR?cj2:cnocn0b~nR2*6i6hiMh1nR1i0nR4*2dnR8hA6FE0iaNGUT IT#mlooNhqU=kui7NEiHkg:cIT#ml:aKHIT) ^ q
 VpxhA6FF0 VIETNAMEiHt2ikAD>nQCAeNHAYhA88hET)GUT mJ%.T-ld1",
 "hA8802iaNGUT mJ%.T-003*2FDhAAFF0 s1 ~M!N) nR2*3jzAFF5 nR7i0NAS;IZh1nR1*4e@1AFFD nR7hl@1B0hEs5EatP~
 s5YEaH.TAIG)A ~AhJ2cA-WOcIhJ3cUhJ4cE-2*4cOhJ2hwhJ8hw-10hlKA-KEcKIhJ7cKUhJ6cKEhJ5cKOhJ2cKO-KIcSAhJ7c
 $hJ5iihJ7iKhJ4cSOhJ6i9hJ3cTIhJ6cTUhJ3cTU-TOjChJ8cTOhJ5cTO-R(NAhJ8cNIhJ6cNI-TjMUhJ2cNEhJ5cNE-KjsOhJ4
 cHAhJ8cHA-10hlHIhJ6cHUhJ2cHEhJ6cHOhJ7cMAhJ6cMIhJ6cMUhJ3cMEhJ1cME-M(MOhJ5iohJ4io-jYYUhJ3cYOhJ5cRAhJ3
 cRIhJ6cRUhJ5i6hJ3cROhJ5cWAhJ4cWIhJ4cWEhJ3cWOhJ6cN-MU-MOhJ1atP~s5WUas1 ~s5YIdYEdWUhAB150 tP~^ WIdWEd
 WOhAB164 s1 ~^ WIdWEdWOdNhABChEDUPLOY) ~HcXcPcTcFcKcLcBcDcVcGcRcP NcD ScF NcK McR Sc<cSLO) DHl0KKcS
 LO) JcHLcLHcRHcMcNcJcScM NcN McJ:cS JcMsvcNh0JhWh8S !l4lmqOSsvfn0cM ScN:cJ:cS:cM N:cN M:cJh0S J:c
 J SsvdNeScS TeRdPeRcT SdR:cWcWHcW RcS NdMcK R ScGh0S KeRc(SLO) OWcO(OcAOUcIcEciTp0IcUIch4SLO) EHciY
 )knIcSLO) h4mmIcjhUcEUcXWcU NcmmUciY)I):cUHcSLO) UcOOHcOWcOUcW(WOck5WEIcWOWcNAS; UizId(P#N! )dAMcSL
 O) .d)d%cVOC;hRMj6BC70 AFFIXnD uZSEC)TcMIDh0R?h0kjrb:cMIDh0lkh0ivixl6dkb-TO-qLdT)G.TdkodE kgdI:dT)G
 .T:hzBCjRn1n9dT?:dnGdlT:dh8doSdkddludrbhzBC90 kjn9dT?:dnGdlT:dh8doSdkddludrbd,iXj6BC9CoYO_mtb<ICK ~
 SE&mSboToeubj5!OOK tEanWklndjL~pPPcC%T!UplmuSTiwUP:hACFhEZNAM.NY tonQw2 tg %nDd+5dhyTAh9w2h9hdSREDN
 Eh9vXh9hdqAh9vX S KHOKHLOM+2",
 "hACF0A ZNAM.NY tonQPOVYh6 S KHOKHLOM %nDdqA+4dw2 tg % R?d+5dhyTAh9w2h9hdSREDNEh9vXh9hdqAh9vX S KHO
 KHLOMh9+5dqA+4dhyTA tgdvXh9hN)NO vXdPOVYh6 tgehN)NOdqA tgdvX hN)NOdGORAZDO qAdZELOd%jAVNOdTIhFhIBOR
 ZAhIUD,jKPODV#TjKLOMjKKUPNAhIKixjKZEVOKdSKOBAjAZSEjKoI %nDhzCF30 T%; R)GEmw MRixNOfSVETLOfThjVETLOc
 nQZAD#ZHjKDEMESTV.NY:dOTSECHjKPODCHhBIEpYwVdCHhBKAePOLNAhIOBLixKOdSOROCHkHNOZHjKTOCHjKDVOETOi7Ecivi
 x>sqOMk1nQnZD:doIcogT%; R)GE tYbPRIZNAK sO &VEL-2i0pnI% FjrdoIdROGj6CF50 NEUME KRYUKdTIKHYcP,AKLi4D
 VA Vj5ELNUcKLYUCHcZ)OZHEKcSj2IhydS OCHKOMcP#EVODjKNuIAY(Sj2Ihy_SOROCHkHNOZHK(hKLYUSTK(P;K(pjAY(GOLU
 Bi7K BORZYdTIKHYdMRixNYdSVETLYdThjVETLYcVRAKHIkHiFhthIMRixNAhISsXThjsXrAVAkHiFhtjXMRixNAjXSVETLAjXT
 hjVETLAY(qBpjAY(sohKLYUSTK(D#BIhychFicOcCHhBK(PODCHhBiTSKAMEYhy MRixNAhISsXThjsXTIhFY(DEMESTV.NY KL
 YUCHcSKAMEYhy rAVAkHSsXrANuIAhIrAVAkHTIhFvYAkHiFhtjXSVETLAjXNuIAjXrAVAY(SLOZHIjkdS pjOYdZAKRYTOEdtg
 coIcROGcFIT(KOBYL(ZMEYhychtThIS pjOYeoIEMepjOY I:eoIEM I pjOYdZAKRYTAjXS pjOYdS ROGOMeDVUMkHpjYMIep
 jOY IjwDCHhBIEMcPOLKULIZMYchtTkHNuIAY(hNELA iFhthIMRixiQIhFhIoIEVAhIPOLUr2hIr2hINuIAhIrAr2hIrANuIAh
 ITIhFkHPUTNAvYAvYOoIEVAvYOr2vYAkHrAVAvYOr2YllGiYNAYA_rEpjAhIGiYOr2YAhdGiYNAhIGiYOr2jXn5qBpjAhIGiYOo
 IEVAjXr2Y(MEi7KdPOVODNYdrAVOYdrAPOVODNYdrANuIYchNELA TRYASOGLASNAhITRYASOr2hITRYASOhNELNAY(OSOjKSsX
 ThjsXKRYUKOVAkHSsXrAVAYA:eNuIAY(hNELA KRYUKOVAjXr2jXGiYNAYA_rEpjAjXGiYOr2YA+3eGiYNAjXGiYOr2YApDqBpj
 AjXGiYOoIEVAYAfr2jXTRYASK(KUFISM(OBLAKOcDUD(NEMK(PAUK"]

end TypedTemplate.Text.CharName
