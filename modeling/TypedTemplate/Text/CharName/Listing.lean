import TypedTemplate.Text.Escape
import TypedTemplate.Text.Lines

/-! Listings of character names in the order of their code points. A small letter from `a` to `g`
begins an entry and says how many words it shares with the entry before it. The words behind those
follow; a digit behind a plus sign says how many more words it shares at the end. Where a code point
does not follow the one before it, it stands in front of the words, between an at sign and a blank.
A star and a number stand for so many entries, each like the one before it with its last word
counted on. Frequent texts are written as a sign, or as a letter from `h` to `z` and a character
behind it. -/
namespace TypedTemplate.Text.CharName

def partsAt (d : Char) : List Char → List (List Char)
  | [] => [[]]
  | c :: s => if c = d then [] :: partsAt d s else extendHead c (partsAt d s)

def words (s : List Char) : List (List Char) := if s.isEmpty then [] else partsAt ' ' s

def joined (s : String) : List Char := (partsAt '\n' s.toList).flatMap trimStart

/-- The frequent texts, each written with those before it. -/
def frequentTexts : String :=
 "IN|ER|SI|ON|LE|Ac|AN|AR|EN|+1|AL|TH|+2a|!G |IGHT|SM;L| WI< |&TT# |+2c|ED |+2b|+3a|EEc|EEd|SHE|SHA|
 DOT|+2d|a@1|ASH|cSH|+4a|00 |KHA|dB0|TWO|YAd|-1*|CHE|dM0|OOc|STR|HAd|ETA|YEH|IC |ATc|SHI|UP |dM1|+2e
 |+3b|ATE|cDA|dKA|OTc|+3c|+3d|LAM|REA|LOW|TRI|FOR|RES|TAd|*1c|STI|URc|PHA|OPc|USH|UNG|UPc|STA|AGE|OU
 T|cKA|LLA|TSA|c@1|*1d|TRA|APc|dLA|ITc|UXc|cRE|CHI|dPA|cTA| PA|NUN|GRA|OXc|ETd|PRO|AEd|SE |HEc|MAd|c
 SE|UOc|IST|AXc|AAd|UTc|NOT|ISH|IDE|IEc|SHO|+4c|HAH|ROW|ROM|SHU| TA|ESH|MIL|UMd|EXc|dB1|DEL|IVE|cSU|
 HEH| RE|HEd|WAW|TOR|cYA|cBE|ASS|AMd|AIc|CHO|TO |ATT|EPc|ACH|IXc|dOd|ESS|AHd|TOP|BOX|EYE| CH|b@1|AdS
 |AdN|*2c|dRA|AId|cTE|QUI|NYI|OLD|EXT|LAG|IPc|Ab@|KAd|AT |EcN|+5a|YTc|AUd|EHd|80 |AIR|ESa|CEc|YPc|OR
 N|YAe|YOc|a@2|TIM|KUR|YXc|SEc|SAD|dEd|HUc|YEc|YRc|ACK|TIE|RAM|TUR|+4b|ETa|UEd|*3c|LIP|OcN|EUA|IIc|S
 UB| PO|ULL|HOd|d@1|AEc|ETc|USa|REC|AKA|WIc|LIC| OF|HOc|QAF|AEM|OS |HIc| NG|IRE|BEL|HOU|YA |WAY|IcN|
 AQd|COM|RHO|UcN|a@A|345|OPP|OR |dDI|456|dUd|346|KEY|356|UNI|MOU|001|&FT|%E |L!E|k7 |DOWN|HOOK|FOUR|
 R!G|hg |$OS|H)D|Fih|I) |TAIL|PLUS|hH |;EF|HEAD|N!E|jF |MEEM|hAF|UiD|TI%|OP.|c:c|H;F|URXc|hA1|$DE|ht
 R|ED:|hA0|Iie|OV#|NO%|!Ga|AMMA|WEST| kR|Iiw|M.T|hFH|dT.|Uhp|CURL|jmN|h7D|DhB|!Gc|j2 | iQ|JEEM|TE.|L
 %G|A*19|Bjj|h5M|:aP|OhV|AY!|h7c|OUND|GUNU|ka*|E:a|V,I|Th1|EUXd|IC;|DIVI|HIGH|A:d| )D|IOTA|YRXc|<E |
 (DD|LOCK|T#a|CLOS|WAVE|dNGG|hz0|B.T|dAB0| h8|UiG|dhO|QUAD|che|HEEL|T%E|Ahl|SEMI|kP6|jz0|IhL|jJ1|FAC
 E|cCM0|IcUc|IkU|HIEU|NUKT|Ik1|kLP|GiR|EAST|j60|Rh1|LOOP|TAK4|diJ|jCN|Cin|ib2|jzD| NEO|aiQ|VOIC|DiR|
 FiR|MAI |TYPE|cPEc|SOFT|SPIR|BADe|dA70|eGAe|MURD|lm |kb |Aky|lT |TILDE|<REE|PIEUP|HEAVY|BLjj|L,GE|C
 ROSS|kf | $GN| M,K|WHITE|kz |)G&|kFOW|lk |kLMA|l1 |cLAK-|WI< |SEV.|CIEUC|ShvH|ACUTE|RIEUL|hg#|SS)G
 | kb|OMEGA|l6a|iCVE|kd |mCa|EQU;|HE,T|MIEUM|PO!T|akb|m5 |COL%|M,K |m5-|kh |UPP#|Rlb|NIEUN|iURT|M!US
 |jzEE|CURVE|;ho|Cky|FIFTY| hiM|iCPH|BREVE|(S(|dkm| WI<|ED=|SLhB|VOWEL|OiCM|VIjl|ABOVE| hi |-CREE|GH
 A!|l9 |kZ<|!DEX|UND#|HAMZA|B;La|FA<A|kY%|KASRA| T.U|dChO|B,B |SPACE|NUM#|<IRD|<UMB|WORD |NOR<|CUL,|
 hKCK|WhYR|;AYH|BO,D|GIMEL|MADDA|WOM)|KRYZH|EEM+2|FILIb|PLACE|SCHWA|BIRGA|PIECE|FIRST|R? | ,iX|CIRC&
 |DOUB&|b$GN |mx | no|mr |mv | kp |nT |mva|SQU,E|KIYEOK|mwb| ns|nB |mq | n0|SYMBOL|F!; |L? |nN |TIKE
 UT|mwa|bkl-|mvb|dns|ch8S-|hNOKE|BOTTOM|C.TRE|MACR%|fkp |ckk-|gn5|nW |cnC|DIGIT |MEDIUM|TW.TY|!G:a|m
 l |nu |mGHc|Lml|o7 |jvSET|dmo|fn5|mo |MIDD&|CjW#|mwc|kb:|cIEhr|F!G#|GREEK |P$L%|<IRTY|hhP&|l9LA|LIT
 T&|C)DRA|HYPH.|Y)N(|P#S%|kf:|bmk|hKSS |en5|jaES |&NG<|H!GED|dlcc|(CH(|c$GN |(NG(|!V#T|VIS,G|(NY(|ZA
 PYAT|NUMB#|!G:c|KASK;|DkECT|BjxET|TWELVE|TEDhr|MEASUR|IOTIFI|LAT! |SAMEKH|DEGREE|OG%EK|FIL&R|VIY)I|
 SAYI$|VEDhR| RTAGS|MULTIP|PH%Ea|jGRA-|ZIGZAG|C)CEL|MEDI;|EMPTY |BRIDGE|VYSOKO|oT |pF |oW |UPW,DS| p
 Z|dpZ|cnA-| oj|lLh1| $NG&|R?:|aoV|8os|oWc|aoX|QU,T#|oWb| oS|DIAM%D|lth1|SCRIPT |cmp-|F!;:|pk |oc |!
 ITI;|pO |PmGPH|p3 |.Dke|HUNDRED|UpM|CmGCH|%EdhH|oib|ni:|SEnb|aoQ|cnV-|ApT|-VASdA4|7os|$XlS|NEUi1L|c
 nL-|TmG<|h8lg|os1|,ABhR|C%TA!|AoZ|P)kk|kbh0|POVODNA|BETWE.|RAISh1|SOLIDUS|KmGKH|MU$C;|UPmj|AVAiCH|K
 LYUhK|iFDUCT|eijh0|AdhFdG|$NG& |:hZP-|ch8TED|H)GUL |P#FECT|OMICR%|WR!K&|CEDIhx|hUTjj| ACC.T|LOZ.GE|
 h6hTG|CAPIT;|A-PIhx|KIRGHIZ|SYRIAC |rQ |hhmz|oSD |qIa|R?=| qX|qN1|V#Tli|<OUS)D|R?h3|nJ TO|REV#SED|k
 qh8S|QUEhm%|oT:|dqJ|)USV,A|SUP#SET|b^+4|hNA?| BRjjET|AST#ISK|q7:|mr:a| DIne|SL)lg|LOGli |R?h2|KAPYE
 OUN|qN2|qq1|ROTAlg|ocD |KATk4NA|qw2|qq2|NEGATih|,CHAhR|mkiu|nvB,|h8&SS |PO$ky|YE$Ehr|fp4-|jWAlG|ROT
 ml|R?hD|DIAG%;|Pk3EDES|K(hFcG|SUCCEEDS|C,RI# |MOVElG|con-|-pNc|IGI lc|MODIFI#|!TEiCL|!SUL, |Sic>|kZ
 NTA!|dK.jaA|P,;&L|l4kIS|ChjC.T|VETLAhI|:cPjl-|YIG MGO |.VELOPE|-h7Ph1|GLOTT; |;T#NAT|CURR.CY|$DDHAM
 b|dhiW,D|OBLIQUE |hTNdTAW|bj4GAZE|i7TUEUM|UMBREhx|kfW,DS|&SS-<)|rf |pgh1|rb |bSjG)T-|kbW,DS|_iW|h8o
 i|_h8|mt>|LIGAjmE |SEP,Ain|DIA#E$S|-nM!G|nM>|sdE|sF |ra2|iSOne|jw!lg|CH,ACT#|C%JO!ED|hWMoJ|kfmj|ry2
 |7rx| OP#Ain|Fjx Sj2|CYRILk6 |ClrWISE|SYhxB& |DESC.D#|qGAe|m7nP|DI;YTIKA| HITT>| ,CHAI%|VOC;hRR|HIR
 AG)A |oTh2|(nn(|nSh8S| <ROUGH |RETROF&X|DOESlQ |n3ki|lQEks|!DICAin|AMP#S)D|aJAP)ESE|m2RUP&|;I G;I |
 C%S%)T|lMOWh1|jGREMELY|S oIEM| FiY B,|jvLIMhY|TE,DROP-|GEORGkn|EdjBOdAU|ss |R?W,DS|kLB!>|_kg|HORIZ%
 T;|pEh8S|sr1|_lR|mC_|L?mj|_kv|oRks|o9 lD|o9 mL|mqmj|7t4| qa:|qYT.|pAl4|lfAfOXIA|ov iu|-W;LPL)E|qY%E
 |P(hocB(|S)S-S#IF|G)2o1e|WRiM F&X|hh)GUL,| E?HS:|GEiCMM.I|qFhB|n8 mL|EPOSTOY)N|kqo6S|APOhNOPHE|EjDV
 ;.T|MAHAPR)(|jvJO!h1|&NTIoA|cTU,EG:c|dPEdjeil|kuTAic |hydTh7dD|SiJTiYIK|CIRCUMF&X|(EcIcOcUc|DI;ECT-
 P |HI#OGLYPH|dt5-|tq |atn|PUNCTUml| ISOLhYD:|kcqf|EXCheml|nwoW|nloY|nJSmv|P,.<E$S|opH!GE|pRB!DU|opF
 iM |sd!G| p2Z#O|(Y(R(L(|P#ISPOM.I|R>pQ|opmz|btEb|-FLOORPL)E|mxoR|;PAPRA)A |kkqH|kuCOPThR|$MPLIFIh1|
 ^ lUb|APiFXIMhY|P!Wm4:a|kLM#CI; |cBhf<Y:c|!DEP.D.T|CRYPTnmM|UKRA!knI|E Ech4is@|jjNOW&DGE|6 Edh5jB@|
 _ot|GhfT#-<)|kr MAKSURA|sqB,|bug|tw+2|ABBREVIml|!T#ql|tn:|scSj2|lf)Tnd|t5hR|lDnq:c|~;EPH|nGrN|qInp|
 ogoQ|p7pA|hMYnq:c|SUP#qV|cnW-TWIG-|qWkk-|oWen0|M;OjwVYh6|hIDVOEhKLN|lT-BR)CH-|P;AT; kg|!hiMp6|cCE%G
 CmGM|EcjeiIQOPH|YEOR!p8|dkQO$NG:d|eNIKOLSBURG |i1NSMIS$%|LUNhY $GMA|^ ~|Odlk:dkj|AvE|avB|)TItG|cvM|
 iOIdImFUUd|sqkd|FRAnb kc|lKYro|opoS+|rbmj|oT-hNUCK|kft0|ISOLhYDnd|pAhiW,D|-$MPLIFIl6|MA<EMATli |(hy
 cTlaDZ|GORAZDO NIZKO|nP SKEWh1|BEdVEdGilDEd|MEETEI MAYEK |WEiKBATBEIT |bvj|ocro|R?t0|tU kg|kbt0 |pE
 qQS|mntD|dAUoUnn|inTOIiHh6LL|cC-uy|q2k6ml|rgoi|(laSSngH|r4KNUCK&|E<cYODHhwPHc|IeEeAeAHeOeOOd|#N PW
 O K,. |EeRUDIlGA:e|P,.<E$Zh1|rU~|ssoR|svoW|_sz|tdoY|sqot|amx=oX|qCs6|D)DAbrib|WEvo|tloU|W(vM|rkcph|
 ($M;hrUN:c|k5vM|_HjWmj|gkvu2| QUOTmlmw|dhHpCdkh|smoR|REV#iHr5|IT;hRrU|NORM; jvGROUP|;MOST re|oQiuog
 |chHcmockh|Blr t3|kekRre|DEVICE C%TROL |cmqhcol|M(MIcMUcMEcMOc|PRiR<AMAi1 E|R(RIcRUi6cROc|bwQ|sO ~|
 tnoR|_uU|oR t1|WhMvM|WjuvM|u0oQ|hH-ksEDoR|-00*6crb-0|kcE?H Blr|rV-ksh1|_P$LImj| NO-BhfK o4a|ulp7|uZ
 ot|uUrN|dY.ISEI:dORKH%|tOeRReLeLL|A SKLIR%j5iYA |L(VwJ|fkb+4fu6|-00*6ctq-0|hQ+2gvC|E<IOPhRtH|EcisOc
 AUcsH|AdGhONGAdCAo2J|oJeiWhWlH+2|TE&PHkck3EihR|ptvj|xE A| ^dp3dms|sKut|sKu7 |NY(TT(T<lqlq|ttt9|uceq
 X|km pKS SPhfD|rg rbLY|_mtED-kod|,TI; DIFF#.TI;|DHcMEMciBcpucA|,ABIC-!DhRp2|h6.dTjQ<jQlH|fDA$A+2fP$
 LImj|C)ADknSYhxBICS |ucdqXc|(GHpfCpdJ(|tumynt|_VRixYfowf|qgdPHIdi7dP$d|NG(T(D(N(P(B(M|js(NkJkNjMOcH
 (|~^ rU|ptwQ|vChWhQh0|x0mj|NN(T(<(D(DH(N(|qoMAHAAPRA)A:c|_mkn3mr|hIThkT<AdDDAdDDhO|hadEL*2izPEd#i0T
 E|~(A(IcImEUUc|T.cp4cud|JIHVAMULIY(UPADHM)IY|~^ rQ:|^:amxh3oX|tusRj4S|nh:d$X:dn6:d|tMCEIL>^|CJK kYF
 Ih1t5-|m1TSEdhKdh7dSHChO|APL FUNnb;qI |u9BH(M(Y(R(|mkrYhUkf=|E<doFdD;E<dilim|rmwx|b^h2wQ|b^hXwQ|b^+
 5wx|b^+6wx|W,DS H,PO%_o3|b^+7wx|vBh3sn|mkuibqL|E<dYODHhaPHi3MEDHdMEM|H,DmvdY#Udmdmv|ugAAeIeIIeUeUUe
 |AyC|qKcq2&cr3b|GADofGAD G,ofG,|okiBl0puclZc|amr+7aqs+7qM|+2yB|:yE|WA(vMNASKAPI:c|EHhWZA!t9elAhW|eq
 gePHIei7eP$enE|hIRAi3dVj7hOSSj7Am1|ip<coFhZ&<ciIimc|_xq|W,DS x8,iX|ukcwc| ^ep3emsemsST|qKdoTdumc|ol
 C.i1LIZp6ot|hHemoekhekme$XeSEV|jG.Dh1xd|_nGfn9fuUf|mjYPOuFf:fOXIA )|EyDKOMI |kvdlAdSE.dA!dFjQjedk9|
 khbkmb$Xbn6bE?bkt|r6cqucqccp8|strZgiWu2|RR(L(hxcLLxH|Phj.Tmlndnpsq|p3h3BjFh3mqh3V#YhD|fhHfmofkhfkmf
 $Xfn6f|_JxOeMoJ|xxtOd|5cROOK+5cBiROP+5cKN?+5cPAWN+|pfCpdJpiT(<(D(N(|mjn9yF|qEjNtnjNsm+5|kgoWyH|SHhk
 T$dCHRIVIdh7dY#UdY#IdYATI|_C,%yB|_nfyB|_n9yB|qEh3tnh3smh3|qEhDtnhDsmhD|tyh2mL=n8hXlD=|tORdLLvEVOC;h
 RLe|vAyB|aqE=tn=sm=|_owyB|yGmkBEl4 |_rLyB|dZlZdHE<dTyK|vlvptOeRR|NNAdhk<AdDAdDhONAi8dhodBAdBhOiJ|uc
 dqXdqa:drqc|wSyE|_suyE|z6LLb@|YOdlnlg^ YUSdBIG:dlnTEDh9FI|ytRRdLdLLc|tpoWyE|QUE.hcROOKhcBiROPhcKN?h
 cPAWNh3|pXKlOQUE.cROOKcBiRhpKN?cPAWN|AZUdBUKYdVEDEdGjHOLIdDOBROdYESTUdZHihTE|_qBnGyE|jyok$GiJ:dTjPx
 l|%Ewpckmc$Xcn6cE?ckt|%Ewinhd$Xdn6dE?dkt|%Eeyf.eE?ekt|_spnfyE|wXogovgs6ogR?|pXqJK!GdQUE.dROOKdBiROP
 dKN?i8WN|6 upg)D YPOuFwx| u8wilIdp4dud|mo:dkh:y3E?:dkt:|p4dpNdhiTYdncd$XTYdn6TYdE?YdN!|p4cpNchiTYcn
 cc$XTYcn6TYcE?YcktT|qKmjmkoTdqB)DnDqKcqB|p2Z#OczR|undzS|hH:cmo:ckh:ckm:c$X:cn6:cE?:ckt:|qKmjoQoTdoT
 mjR?qKcqB|_P$LIfDA$AfP$LImjlfAxfOXIA| zdb|CoYmH(r9zDd|SchHh0moh0khh0kmh0$Xh0n6h0E?h0kth0|tnhXsmhXty
 hcmLhXn8iVlDhX|kkpJcn7cqhcymod|mEK(G(xmuoWngHvlI|qKmjuZoTdoTmjtqqKcqB|zhfDA$Ah2@1F|AUcsHxiJH(xVH(xs
 |T.cE&V.cppc<IRlSckhlScFIFlScqrcn6lScE?E.cktlS|hOBhPdGlCdighkEpMdZhPdhPd<hPdlnhaPPAi3MDAdMUdNUdXIdr
 JdPIdR|naeBhPeGlCeigTAeEpMeZhPehPe<hPelneKAPPAeheDAeMUeNUeXIerJeP|zhxfupfDA$Ah2|zkT.h0Jjjh0KN?h0QUE
 .h0K!Gh0|dIZilqa:dIdDJ#VIhaKOdLJUDIJEdMYSLITEdNhBId%UdPOKOJIdRIT$dSLOVOdTVRIDOdUKUdFRITUdH#U|uFxflf
 A+2fDA$A+4fP$LImjOXIA+2fDA$A+4fP$LImjup+2fDA$Ajn|EcisOczqy8|uddhH:dzZdkcrcdhH:dzZlI:dp4:dpN:dhiTY:d
 nc:d$XTY:dn6TY:dE?Y:dktTY:"

def frequentSigns : List Char := "!#$%&(),.:;<=>?^_~".toList

def frequentNumber (c d : Char) : Nat :=
  let behind :=
    if d.isDigit then d.toNat - '0'.toNat
    else if d.isUpper then d.toNat - 'A'.toNat + 10
    else d.toNat - 'a'.toNat + 36
  frequentSigns.length + (c.toNat - 'h'.toNat) * 62 + behind

def spelled (table : Array (List Char)) (c : Char) : List Char :=
  match frequentSigns.idxOf? c with
  | some k => (table[k]?).getD []
  | none => [c]

def writtenOut (table : Array (List Char)) : List Char → List Char
  | c :: d :: s =>
    if 'h' ≤ c && c ≤ 'z' then (table[frequentNumber c d]?).getD [] ++ writtenOut table s
    else spelled table c ++ writtenOut table (d :: s)
  | [c] => spelled table c
  | [] => []

def frequentTable : Array (List Char) :=
  (partsAt '|' (joined frequentTexts)).foldl (fun table s => table.push (writtenOut table s)) #[]

def hexNumber (s : List Char) : Nat := s.foldl (fun n c => n * 16 + (hexValue? c).getD 0) 0

structure Entry where
  code : Nat
  words : List (List Char)

def countedOn : List Char → List Char
  | '9' :: s => '0' :: countedOn s
  | c :: s => Char.ofNat (c.toNat + 1) :: s
  | [] => []

/-- Entries that count on from one. -/
def Entry.count (e : Entry) : Nat → List Entry
  | 0 => []
  | n + 1 =>
    let last := (e.words.getLast?.getD []).reverse
    let next : Entry := ⟨e.code + 1, e.words.dropLast ++ [(countedOn last).reverse]⟩
    next :: next.count n

/-- The entries that a text gives behind another entry. -/
def Entry.next (e : Entry) : List Char → List Entry
  | '*' :: number => e.count (hexNumber number)
  | c :: text =>
    let (code, text) :=
      match text with
      | '@' :: s => (hexNumber (s.takeWhile (· != ' ')), (s.dropWhile (· != ' ')).drop 1)
      | _ => (e.code + 1, text)
    let (own, shared) := text.span (· != '+')
    let shared := hexNumber (shared.drop 1)
    [⟨code, e.words.take (c.toNat - 'a'.toNat) ++
      (CharName.words own ++ e.words.drop (e.words.length - shared))⟩]
  | [] => []

/-- The code point of the first entry with the given words. -/
def findFrom (wanted : List (List Char)) : Entry → List (List Char) → Option Nat
  | _, [] => none
  | e, t :: ts =>
    let es := e.next t
    match es.find? (·.words == wanted) with
    | some found => some found.code
    | none => findFrom wanted (es.getLast?.getD e) ts

def entryTexts (listing : String) : List (List Char) :=
  let s := writtenOut frequentTable (joined listing)
  partsAt ',' (s.flatMap fun c => if c.isLower || c == '*' then [',', c] else [c])

def find? (wanted : List (List Char)) (listing : String) : Option Nat :=
  findFrom wanted ⟨0, []⟩ (entryTexts listing)

end TypedTemplate.Text.CharName
