import TypedTemplate.Text.Search

/-! Characters of identifiers that stand for others, each written with the characters it stands
for. -/
namespace TypedTemplate.Text.Normal

/-- Entries of a character and, right behind it, its expansion, with the expansions of the
characters that follow it behind commas; the vowels and consonants of Hangul syllables are computed
instead. -/
def decompositionEntries : List String := [
  "ªa µμ ºo ÀÀ,Á,Â,Ã,Ä,Å ÇÇ,È,É,Ê,Ë,Ì,Í,Î,Ï ÑÑ,Ò,Ó,Ô,Õ,Ö ÙÙ,Ú,Û,Ü,Ý àà",
  "áá,â,ã,ä,å çç,è,é,ê,ë,ì,í,î,ï ññ,ò,ó,ô,õ,ö ùù,ú,û,ü,ý ÿÿ,Ā,ā,Ă,ă",
  "ĄĄ,ą,Ć,ć,Ĉ,ĉ,Ċ,ċ,Č,č,Ď,ď ĒĒ,ē,Ĕ,ĕ,Ė,ė,Ę,ę,Ě,ě,Ĝ,ĝ,Ğ,ğ,Ġ,ġ,Ģ,ģ,Ĥ",
  "ĥĥ ĨĨ,ĩ,Ī,ī,Ĭ,ĭ,Į,į,İ ĲIJ,ij,Ĵ,ĵ,Ķ,ķ ĹĹ,ĺ,Ļ,ļ,Ľ,ľ,L·,l· ŃŃ,ń,Ņ,ņ,Ň,ň",
  "ŉʼn ŌŌ,ō,Ŏ,ŏ,Ő,ő ŔŔ,ŕ,Ŗ,ŗ,Ř,ř,Ś,ś,Ŝ,ŝ,Ş,ş,Š,š,Ţ,ţ,Ť,ť ŨŨ,ũ,Ū,ū,Ŭ",
  "ŭŭ,Ů,ů,Ű,ű,Ų,ų,Ŵ,ŵ,Ŷ,ŷ,Ÿ,Ź,ź,Ż,ż,Ž,ž,s ƠƠ,ơ ƯƯ,ư ǄDŽ,Dž,dž,LJ,Lj,lj,NJ",
  "ǋNj,nj,Ǎ,ǎ,Ǐ,ǐ,Ǒ,ǒ,Ǔ,ǔ,Ǖ,ǖ,Ǘ,ǘ,Ǚ,ǚ,Ǜ,ǜ ǞǞ,ǟ,Ǡ,ǡ,Ǣ,ǣ ǦǦ,ǧ,Ǩ",
  "ǩǩ,Ǫ,ǫ,Ǭ,ǭ,Ǯ,ǯ,ǰ,DZ,Dz,dz,Ǵ,ǵ ǸǸ,ǹ,Ǻ,ǻ,Ǽ,ǽ,Ǿ,ǿ,Ȁ,ȁ,Ȃ,ȃ,Ȅ,ȅ,Ȇ,ȇ,Ȉ",
  "ȉȉ,Ȋ,ȋ,Ȍ,ȍ,Ȏ,ȏ,Ȑ,ȑ,Ȓ,ȓ,Ȕ,ȕ,Ȗ,ȗ,Ș,ș,Ț,ț ȞȞ,ȟ ȦȦ,ȧ,Ȩ,ȩ,Ȫ,ȫ,Ȭ,ȭ",
  "ȮȮ,ȯ,Ȱ,ȱ,Ȳ,ȳ ʰh,ɦ,j,r,ɹ,ɻ,ʁ,w,y ˠɣ,l,s,x,ʕ ̀̀,́ ̓̓,̈́ ʹʹ ΆΆ,·,Έ,Ή,Ί ΌΌ ΎΎ,Ώ,ΐ",
  "ΪΪ,Ϋ,ά,έ,ή,ί,ΰ ϊϊ,ϋ,ό,ύ,ώ ϐβ,θ,Υ,Ύ,Ϋ,φ,π ϰκ,ρ,ς ϴΘ,ε ϹΣ ЀЀ,Ё ЃЃ ЇЇ ЌЌ,Ѝ,Ў",
  "ЙЙ йй ѐѐ,ё ѓѓ її ќќ,ѝ,ў ѶѶ,ѷ ӁӁ,ӂ ӐӐ,ӑ,Ӓ,ӓ ӖӖ,ӗ ӚӚ,ӛ,Ӝ,ӝ,Ӟ,ӟ ӢӢ,ӣ,Ӥ",
  "ӥӥ,Ӧ,ӧ ӪӪ,ӫ,Ӭ,ӭ,Ӯ,ӯ,Ӱ,ӱ,Ӳ,ӳ,Ӵ,ӵ ӸӸ,ӹ ևեւ آآ,أ,ؤ,إ,ئ ٵاٴ,وٴ,ۇٴ,يٴ ۀۀ ۂۂ",
  "ۓۓ ऩऩ ऱऱ ऴऴ क़क़,ख़,ग़,ज़,ड़,ढ़,फ़,य़ োো,ৌ ড়ড়,ঢ় য়য় ਲ਼ਲ਼ ਸ਼ਸ਼ ਖ਼ਖ਼,ਗ਼,ਜ਼ ਫ਼ਫ਼ ୈୈ ୋୋ,ୌ ଡ଼ଡ଼",
  "ଢ଼ଢ଼ ஔஔ ொொ,ோ,ௌ ైై ೀೀ ೇೇ,ೈ ೊೊ,ೋ ൊൊ,ോ,ൌ ේේ ොො,ෝ,ෞ ำํา ຳໍາ ໜຫນ,ຫມ གྷགྷ ཌྷཌྷ དྷདྷ",
  "བྷབྷ ཛྷཛྷ ཀྵཀྵ ཱཱིི ཱཱུུ,ྲྀ,ྲཱྀ,ླྀ,ླཱྀ ཱཱྀྀ ྒྷྒྷ ྜྷྜྷ ྡྷྡྷ ྦྷྦྷ ྫྷྫྷ ྐྵྐྵ ဦဦ ჼნ ᬆᬆ ᬈᬈ ᬊᬊ ᬌᬌ ᬎᬎ ᬒᬒ",
  "ᬻᬻ ᬽᬽ ᭀᭀ,ᭁ ᭃᭃ ᴬA,Æ,B ᴰD,E,Ǝ,G,H,I,J,K,L,M,N ᴼO,Ȣ,P,R,T,U,W,a,ɐ,ɑ,ᴂ,b,d,e,ə,ɛ,ɜ,g ᵏk,m,ŋ,o",
  "ᵓɔ,ᴖ,ᴗ,p,t,u,ᴝ,ɯ,v,ᴥ,β,γ,δ,φ,χ,i,r,u,v,β,γ,ρ,φ,χ ᵸн ᶛɒ,c,ɕ,ð,ɜ,f,ɟ,ɡ,ɥ,ɨ,ɩ,ɪ,ᵻ,ʝ,ɭ,ᶅ,ʟ,ɱ,ɰ,ɲ,ɳ",
  "ᶰɴ,ɵ,ɸ,ʂ,ʃ,ƫ,ʉ,ʊ,ᴜ,ʋ,ʌ,z,ʐ,ʑ,ʒ,θ ḀḀ,ḁ,Ḃ,ḃ,Ḅ,ḅ,Ḇ,ḇ,Ḉ,ḉ,Ḋ,ḋ,Ḍ,ḍ,Ḏ,ḏ,Ḑ,ḑ,Ḓ,ḓ",
  "ḔḔ,ḕ,Ḗ,ḗ,Ḙ,ḙ,Ḛ,ḛ,Ḝ,ḝ,Ḟ,ḟ,Ḡ,ḡ,Ḣ,ḣ,Ḥ,ḥ,Ḧ,ḧ,Ḩ,ḩ,Ḫ,ḫ,Ḭ,ḭ,Ḯ,ḯ,Ḱ",
  "ḱḱ,Ḳ,ḳ,Ḵ,ḵ,Ḷ,ḷ,Ḹ,ḹ,Ḻ,ḻ,Ḽ,ḽ,Ḿ,ḿ,Ṁ,ṁ,Ṃ,ṃ,Ṅ,ṅ,Ṇ,ṇ,Ṉ,ṉ,Ṋ,ṋ,Ṍ,ṍ,Ṏ",
  "ṏṏ,Ṑ,ṑ,Ṓ,ṓ,Ṕ,ṕ,Ṗ,ṗ,Ṙ,ṙ,Ṛ,ṛ,Ṝ,ṝ,Ṟ,ṟ,Ṡ,ṡ,Ṣ,ṣ,Ṥ,ṥ,Ṧ,ṧ,Ṩ,ṩ",
  "ṪṪ,ṫ,Ṭ,ṭ,Ṯ,ṯ,Ṱ,ṱ,Ṳ,ṳ,Ṵ,ṵ,Ṷ,ṷ,Ṹ,ṹ,Ṻ,ṻ,Ṽ,ṽ,Ṿ,ṿ,Ẁ,ẁ,Ẃ,ẃ,Ẅ,ẅ,Ẇ,ẇ",
  "ẈẈ,ẉ,Ẋ,ẋ,Ẍ,ẍ,Ẏ,ẏ,Ẑ,ẑ,Ẓ,ẓ,Ẕ,ẕ,ẖ,ẗ,ẘ,ẙ,aʾ,ṡ ẠẠ,ạ,Ả,ả,Ấ,ấ,Ầ,ầ,Ẩ",
  "ẩẩ,Ẫ,ẫ,Ậ,ậ,Ắ,ắ,Ằ,ằ,Ẳ,ẳ,Ẵ,ẵ,Ặ,ặ,Ẹ,ẹ,Ẻ,ẻ,Ẽ,ẽ,Ế,ế,Ề,ề",
  "ỂỂ,ể,Ễ,ễ,Ệ,ệ,Ỉ,ỉ,Ị,ị,Ọ,ọ,Ỏ,ỏ,Ố,ố,Ồ,ồ,Ổ,ổ,Ỗ,ỗ,Ộ,ộ,Ớ",
  "ớớ,Ờ,ờ,Ở,ở,Ỡ,ỡ,Ợ,ợ,Ụ,ụ,Ủ,ủ,Ứ,ứ,Ừ,ừ,Ử,ử,Ữ,ữ,Ự,ự,Ỳ,ỳ",
  "ỴỴ,ỵ,Ỷ,ỷ,Ỹ,ỹ ἀἀ,ἁ,ἂ,ἃ,ἄ,ἅ,ἆ,ἇ,Ἀ,Ἁ,Ἂ,Ἃ,Ἄ,Ἅ,Ἆ,Ἇ,ἐ,ἑ,ἒ,ἓ",
  "ἔἔ,ἕ ἘἘ,Ἑ,Ἒ,Ἓ,Ἔ,Ἕ ἠἠ,ἡ,ἢ,ἣ,ἤ,ἥ,ἦ,ἧ,Ἠ,Ἡ,Ἢ,Ἣ,Ἤ,Ἥ,Ἦ,Ἧ,ἰ",
  "ἱἱ,ἲ,ἳ,ἴ,ἵ,ἶ,ἷ,Ἰ,Ἱ,Ἲ,Ἳ,Ἴ,Ἵ,Ἶ,Ἷ,ὀ,ὁ,ὂ,ὃ,ὄ,ὅ ὈὈ,Ὁ,Ὂ,Ὃ",
  "ὌὌ,Ὅ ὐὐ,ὑ,ὒ,ὓ,ὔ,ὕ,ὖ,ὗ ὙὙ ὛὛ ὝὝ ὟὟ,ὠ,ὡ,ὢ,ὣ,ὤ,ὥ,ὦ,ὧ,Ὠ,Ὡ",
  "ὪὪ,Ὣ,Ὤ,Ὥ,Ὦ,Ὧ,ὰ,ά,ὲ,έ,ὴ,ή,ὶ,ί,ὸ,ό,ὺ,ύ,ὼ,ώ ᾀᾀ,ᾁ,ᾂ,ᾃ,ᾄ,ᾅ",
  "ᾆᾆ,ᾇ,ᾈ,ᾉ,ᾊ,ᾋ,ᾌ,ᾍ,ᾎ,ᾏ,ᾐ,ᾑ,ᾒ,ᾓ,ᾔ,ᾕ,ᾖ,ᾗ,ᾘ,ᾙ",
  "ᾚᾚ,ᾛ,ᾜ,ᾝ,ᾞ,ᾟ,ᾠ,ᾡ,ᾢ,ᾣ,ᾤ,ᾥ,ᾦ,ᾧ,ᾨ,ᾩ,ᾪ,ᾫ,ᾬ",
  "ᾭᾭ,ᾮ,ᾯ,ᾰ,ᾱ,ᾲ,ᾳ,ᾴ ᾶᾶ,ᾷ,Ᾰ,Ᾱ,Ὰ,Ά,ᾼ ιι ῂῂ,ῃ,ῄ ῆῆ,ῇ,Ὲ,Έ,Ὴ,Ή,ῌ",
  "ῐῐ,ῑ,ῒ,ΐ ῖῖ,ῗ,Ῐ,Ῑ,Ὶ,Ί ῠῠ,ῡ,ῢ,ΰ,ῤ,ῥ,ῦ,ῧ,Ῠ,Ῡ,Ὺ,Ύ,Ῥ ῲῲ,ῳ,ῴ ῶῶ",
  "ῷῷ,Ὸ,Ό,Ὼ,Ώ,ῼ ⁱi ⁿn ₐa,e,o,x,ə,h,k,l,m,n,p,s,t ℂC ℇƐ ℊg,H,H,H,h,ħ,I,I,L,l ℕN ℙP,Q,R,R,R",
  "ℤZ ΩΩ ℨZ KK,Å,B,C ℯe,E,F ℳM,o,א,ב,ג,ד,i ℼπ,γ,Γ,Π ⅅD,d,e,i,j ⅠI,II,III,IV,V,VI,VII,VIII,IX,X,XI",
  "ⅫXII,L,C,D,M,i,ii,iii,iv,v,vi,vii,viii,ix,x,xi,xii,l,c,d,m ⱼj,V ⵯⵡ 〸十,卄,卅 がが ぎぎ ぐぐ げげ ごご",
  "ざざ じじ ずず ぜぜ ぞぞ だだ ぢぢ づづ でで どど ばば,ぱ びび,ぴ ぶぶ,ぷ べべ,ぺ ぼぼ,ぽ ゔゔ ゞゞ,より ガガ ギギ",
  "ググ ゲゲ ゴゴ ザザ ジジ ズズ ゼゼ ゾゾ ダダ ヂヂ ヅヅ デデ ドド ババ,パ ビビ,ピ ブブ,プ ベベ,ペ ボボ,ポ ヴヴ ヷヷ",
  "ヸヸ,ヹ,ヺ ヾヾ,コト ㄱᄀ,ᄁ,ᆪ,ᄂ,ᆬ,ᆭ,ᄃ,ᄄ,ᄅ,ᆰ,ᆱ,ᆲ,ᆳ,ᆴ,ᆵ,ᄚ,ᄆ,ᄇ,ᄈ,ᄡ,ᄉ,ᄊ,ᄋ,ᄌ,ᄍ,ᄎ,ᄏ,ᄐ,ᄑ,ᄒ,ᅡ,ᅢ,ᅣ,ᅤ,ᅥ,ᅦ,ᅧ,ᅨ,ᅩ",
  "ㅘᅪ,ᅫ,ᅬ,ᅭ,ᅮ,ᅯ,ᅰ,ᅱ,ᅲ,ᅳ,ᅴ,ᅵ,ᅠ,ᄔ,ᄕ,ᇇ,ᇈ,ᇌ,ᇎ,ᇓ,ᇗ,ᇙ,ᄜ,ᇝ,ᇟ,ᄝ,ᄞ,ᄠ,ᄢ,ᄣ,ᄧ,ᄩ,ᄫ,ᄬ,ᄭ,ᄮ,ᄯ,ᄲ,ᄶ,ᅀ,ᅇ,ᅌ,ᇱ,ᇲ,ᅗ,ᅘ,ᅙ",
  "ㆇᆄ,ᆅ,ᆈ,ᆑ,ᆒ,ᆔ,ᆞ,ᆡ ꚜъ,ь ꝰꝯ ꟲC,F,Q ꟸĦ,œ ꭜꜧ,ꬷ,ɫ,ꭒ ꭩʍ 豈豈,更,車,賈,滑,串,句,龜,龜,契,金,喇,奈,懶,癩,羅,蘿,螺,裸,邏,樂,洛,烙",
  "珞珞,落,酪,駱,亂,卵,欄,爛,蘭,鸞,嵐,濫,藍,襤,拉,臘,蠟,廊,朗,浪,狼,郎,來,冷,勞,擄,櫓,爐,盧,老,蘆,虜,路,露,魯,鷺,碌,祿,綠,菉,錄,鹿,論,壟,弄,籠,聾",
  "牢牢,磊,賂,雷,壘,屢,樓,淚,漏,累,縷,陋,勒,肋,凜,凌,稜,綾,菱,陵,讀,拏,樂,諾,丹,寧,怒,率,異,北,磻,便,復,不,泌,數,索,參,塞,省,葉,說,殺,辰,沈,拾,若",
  "掠掠,略,亮,兩,凉,梁,糧,良,諒,量,勵,呂,女,廬,旅,濾,礪,閭,驪,麗,黎,力,曆,歷,轢,年,憐,戀,撚,漣,煉,璉,秊,練,聯,輦,蓮,連,鍊,列,劣,咽,烈,裂,說,廉,念",
  "捻捻,殮,簾,獵,令,囹,寧,嶺,怜,玲,瑩,羚,聆,鈴,零,靈,領,例,禮,醴,隸,惡,了,僚,寮,尿,料,樂,燎,療,蓼,遼,龍,暈,阮,劉,杻,柳,流,溜,琉,留,硫,紐,類,六,戮",
  "陸陸,倫,崙,淪,輪,律,慄,栗,率,隆,利,吏,履,易,李,梨,泥,理,痢,罹,裏,裡,里,離,匿,溺,吝,燐,璘,藺,隣,鱗,麟,林,淋,臨,立,笠,粒,狀,炙,識,什,茶,刺,切,度",
  "拓拓,糖,宅,洞,暴,輻,行,降,見,廓,兀,嗀 塚塚 晴晴 凞凞,猪,益,礼,神,祥,福,靖,精,羽 蘒蘒 諸諸 逸逸,都 飯飯,飼,館,鶴,郞,隷,侮,僧,免,勉,勤,卑,喝,嘆,器,塀",
  "墨墨,層,屮,悔,慨,憎,懲,敏,既,暑,梅,海,渚,漢,煮,爫,琢,碑,社,祉,祈,祐,祖,祝,禍,禎,穀,突,節,練,縉,繁,署,者,臭,艹,艹,著,褐,視,謁,謹,賓,贈,辶,逸,難",
  "響響,頻,恵,𤋮,舘 並並,况,全,侀,充,冀,勇,勺,喝,啕,喙,嗢,塚,墳,奄,奔,婢,嬨,廒,廙,彩,徭,惘,慎,愈,憎,慠,懲,戴,揄,搜,摒,敖,晴,朗,望,杖,歹,殺,流,滛,滋",
  "漢漢,瀞,煮,瞧,爵,犯,猪,瑱,甆,画,瘝,瘟,益,盛,直,睊,着,磌,窱,節,类,絛,練,缾,者,荒,華,蝹,襁,覆,視,調,諸,請,謁,諾,諭,謹,變,贈,輸,遲,醙,鉶,陼,難,靖",
  "韛韛,響,頋,頻,鬒,龜,𢡊,𢡄,𣏕,㮝,䀘,䀹,𥉉,𥳐,𧻓,齃,龎 ﬀff,fi,fl,ffi,ffl,st,st ﬓմն,մե,մի,վն,մխ יִיִ ײַײַ,ע,א,ד,ה,כ,ל",
  "ﬦם,ר,ת שׁשׁ,שׂ,שּׁ,שּׂ,אַ,אָ,אּ,בּ,גּ,דּ,הּ,וּ,זּ טּטּ,יּ,ךּ,כּ,לּ מּמּ נּנּ,סּ ףּףּ,פּ צּצּ,קּ,רּ,שּ",
  "תּתּ,וֹ,בֿ,כֿ,פֿ,אל,ٱ,ٱ,ٻ,ٻ,ٻ,ٻ,پ,پ,پ,پ,ڀ,ڀ,ڀ,ڀ,ٺ,ٺ,ٺ,ٺ,ٿ,ٿ,ٿ,ٿ,ٹ,ٹ,ٹ,ٹ,ڤ,ڤ,ڤ,ڤ,ڦ,ڦ,ڦ,ڦ,ڄ,ڄ,ڄ,ڄ",
  "ﭶڃ,ڃ,ڃ,ڃ,چ,چ,چ,چ,ڇ,ڇ,ڇ,ڇ,ڍ,ڍ,ڌ,ڌ,ڎ,ڎ,ڈ,ڈ,ژ,ژ,ڑ,ڑ,ک,ک,ک,ک,گ,گ,گ,گ,ڳ,ڳ,ڳ,ڳ,ڱ,ڱ,ڱ,ڱ,ں,ں,ڻ,ڻ,ڻ,ڻ,ۀ",
  "ﮥۀ,ہ,ہ,ہ,ہ,ھ,ھ,ھ,ھ,ے,ے,ۓ,ۓ ﯓڭ,ڭ,ڭ,ڭ,ۇ,ۇ,ۆ,ۆ,ۈ,ۈ,ۇٴ,ۋ,ۋ,ۅ,ۅ,ۉ,ۉ,ې,ې,ې,ې,ى,ى,ئا,ئا,ئە,ئە",
  "ﯮئو,ئو,ئۇ,ئۇ,ئۆ,ئۆ,ئۈ,ئۈ,ئې,ئې,ئې,ئى,ئى,ئى,ی,ی,ی,ی,ئج,ئح,ئم,ئى,ئي,بج,بح,بخ",
  "ﰈبم,بى,بي,تج,تح,تخ,تم,تى,تي,ثج,ثم,ثى,ثي,جح,جم,حج,حم,خج,خح,خم,سج,سح,سخ,سم,صح,صم,ضج,ضح,ضخ,ضم,طح",
  "ﰧطم,ظم,عج,عم,غج,غم,فج,فح,فخ,فم,فى,في,قح,قم,قى,قي,كا,كج,كح,كخ,كل,كم,كى,كي,لج,لح,لخ,لم,لى,لي,مج",
  "ﱆمح,مخ,مم,مى,مي,نج,نح,نخ,نم,نى,ني,هج,هم,هى,هي,يج,يح,يخ,يم,يى,يي,ذٰ,رٰ,ىٰ ﱤئر,ئز,ئم,ئن,ئى",
  "ﱩئي,بر,بز,بم,بن,بى,بي,تر,تز,تم,تن,تى,تي,ثر,ثز,ثم,ثن,ثى,ثي,فى,في,قى,قي,كا,كل,كم,كى,كي,لم,لى,لي",
  "ﲈما,مم,نر,نز,نم,نن,نى,ني,ىٰ,ير,يز,يم,ين,يى,يي,ئج,ئح,ئخ,ئم,ئه,بج,بح,بخ,بم,به,تج,تح,تخ,تم,ته",
  "ﲦثم,جح,جم,حج,حم,خج,خم,سج,سح,سخ,سم,صح,صخ,صم,ضج,ضح,ضخ,ضم,طح,ظم,عج,عم,غج,غم,فج,فح,فخ,فم,قح,قم,كج",
  "ﳅكح,كخ,كل,كم,لج,لح,لخ,لم,له,مج,مح,مخ,مم,نج,نح,نخ,نم,نه,هج,هم,هٰ,يج,يح,يخ,يم,يه,ئم,ئه,بم,به,تم",
  "ﳤته,ثم,ثه,سم,سه,شم,شه,كل,كم,لم,نم,نه,يم,يه,ـَّ,ـُّ,ـِّ,طى,طي,عى,عي,غى,غي,سى,سي,شى,شي,حى,حي,جى",
  "ﴂجي,خى,خي,صى,صي,ضى,ضي,شج,شح,شخ,شم,شر,سر,صر,ضر,طى,طي,عى,عي,غى,غي,سى,سي,شى,شي,حى,حي,جى,جي,خى,خي",
  "ﴡصى,صي,ضى,ضي,شج,شح,شخ,شم,شر,سر,صر,ضر,شج,شح,شخ,شم,سه,شه,طم,سج,سح,سخ,شج,شح,شخ,طم,ظم,اً,اً ﵐتجم",
  "ﵑتحج,تحج,تحم,تخم,تمج,تمح,تمخ,جمح,جمح,حمي,حمى,سحج,سجح,سجى,سمح,سمح,سمج,سمم,سمم,صحح,صحح,صمم,شحم",
  "ﵨشحم,شجي,شمخ,شمخ,شمم,شمم,ضحى,ضخم,ضخم,طمح,طمح,طمم,طمي,عجم,عمم,عمم,عمى,غمم,غمي,غمى,فخم,فخم,قمح",
  "ﵿقمم,لحم,لحي,لحى,لجج,لجج,لخم,لخم,لمح,لمح,محج,محم,محي,مجح,مجم,مخج,مخم ﶒمجخ,همج,همم,نحم,نحى,نجم",
  "ﶘنجم,نجى,نمي,نمى,يمم,يمم,بخي,تجي,تجى,تخي,تخى,تمي,تمى,جمي,جحى,جمى,سخى,صحي,شحي,ضحي,لجي,لمي,يحي",
  "ﶯيجي,يمي,ممي,قمي,نحي,قمح,لحم,عمي,كمي,نجح,مخي,لجم,كمم,لجم,نجح,جحي,حجي,مجي,فمي,بحي,كمم,عجم,صمم",
  "ﷆسخي,نجي ﷰصلے,قلے,الله,اكبر,محمد,صلعم,رسول,عليه,وسلم,صلى ︳_,_ ﹍_,_,_ ﹱـً ﹷـَ ﹹـُ ﹻـِ ﹽـّ ﹿـْ,ء",
  "ﺁآ,آ,أ,أ,ؤ,ؤ,إ,إ,ئ,ئ,ئ,ئ,ا,ا,ب,ب,ب,ب,ة,ة,ت,ت,ت,ت,ث,ث,ث,ث,ج,ج,ج,ج,ح,ح,ح,ح,خ,خ,خ,خ,د",
  "ﺪد,ذ,ذ,ر,ر,ز,ز,س,س,س,س,ش,ش,ش,ش,ص,ص,ص,ص,ض,ض,ض,ض,ط,ط,ط,ط,ظ,ظ,ظ,ظ,ع,ع,ع,ع,غ,غ,غ,غ,ف,ف,ف,ف,ق,ق,ق,ق",
  "ﻙك,ك,ك,ك,ل,ل,ل,ل,م,م,م,م,ن,ن,ن,ن,ه,ه,ه,ه,و,و,ى,ى,ي,ي,ي,ي,لآ,لآ,لأ,لأ,لإ,لإ,لا,لا ０0,1,2,3",
  "４4,5,6,7,8,9 ＡA,B,C,D,E,F,G,H,I,J,K,L,M,N,O,P,Q,R,S,T,U,V,W,X,Y,Z ＿_ ａa,b,c,d,e,f,g,h,i,j,k,l,m",
  "ｎn,o,p,q,r,s,t,u,v,w,x,y,z ｦヲ,ァ,ィ,ゥ,ェ,ォ,ャ,ュ,ョ,ッ,ー,ア,イ,ウ,エ,オ,カ,キ,ク,ケ,コ,サ,シ,ス,セ,ソ,タ,チ,ツ,テ,ト,ナ,ニ,ヌ",
  "ﾈネ,ノ,ハ,ヒ,フ,ヘ,ホ,マ,ミ,ム,メ,モ,ヤ,ユ,ヨ,ラ,リ,ル,レ,ロ,ワ,ン,゙,゚,ᅠ,ᄀ,ᄁ,ᆪ,ᄂ,ᆬ,ᆭ,ᄃ,ᄄ,ᄅ,ᆰ,ᆱ,ᆲ,ᆳ,ᆴ,ᆵ,ᄚ,ᄆ,ᄇ,ᄈ,ᄡ,ᄉ,ᄊ",
  "ﾷᄋ,ᄌ,ᄍ,ᄎ,ᄏ,ᄐ,ᄑ,ᄒ ￂᅡ,ᅢ,ᅣ,ᅤ,ᅥ,ᅦ ￊᅧ,ᅨ,ᅩ,ᅪ,ᅫ,ᅬ ￒᅭ,ᅮ,ᅯ,ᅰ,ᅱ,ᅲ ￚᅳ,ᅴ,ᅵ 𐞁ː,ˑ,æ,ʙ,ɓ 𐞇ʣ,ꭦ,ʥ,ʤ,ɖ,ɗ,ᶑ,ɘ,ɞ,ʩ",
  "𐞑ɤ,ɢ,ɠ,ʛ,ħ,ʜ,ɧ,ʄ,ʪ,ʫ,ɬ,𝼄,ꞎ,ɮ,𝼅,ʎ,𝼆,ø,ɶ,ɷ,q,ɺ,𝼈,ɽ,ɾ,ʀ,ʨ,ʦ,ꭧ,ʧ,ʈ,ⱱ 𐞲ʏ,ʡ,ʢ,ʘ,ǀ,ǁ,ǂ,𝼊,𝼞 𑂚𑂚 𑂜𑂜 𑂫𑂫",
  "𑄮𑄮,𑄯 𑍋𑍋,𑍌 𑒻𑒻,𑒼 𑒾𑒾 𑖺𑖺,𑖻 𑤸𑤸 𝐀A,B,C,D,E,F,G,H,I,J,K,L,M,N,O,P,Q,R,S,T,U,V,W,X,Y,Z,a,b,c",
  "𝐝d,e,f,g,h,i,j,k,l,m,n,o,p,q,r,s,t,u,v,w,x,y,z,A,B,C,D,E,F,G,H,I,J,K,L,M,N,O,P,Q,R,S,T,U,V,W,X",
  "𝑌Y,Z,a,b,c,d,e,f,g 𝑖i,j,k,l,m,n,o,p,q,r,s,t,u,v,w,x,y,z,A,B,C,D,E,F,G,H,I,J,K,L,M,N,O,P,Q,R,S,T",
  "𝑼U,V,W,X,Y,Z,a,b,c,d,e,f,g,h,i,j,k,l,m,n,o,p,q,r,s,t,u,v,w,x,y,z,A 𝒞C,D 𝒢G 𝒥J,K 𝒩N,O,P,Q 𝒮S,T,U",
  "𝒱V,W,X,Y,Z,a,b,c,d 𝒻f 𝒽h,i,j,k,l,m,n 𝓅p,q,r,s,t,u,v,w,x,y,z,A,B,C,D,E,F,G,H,I,J,K,L,M,N,O,P,Q,R",
  "𝓢S,T,U,V,W,X,Y,Z,a,b,c,d,e,f,g,h,i,j,k,l,m,n,o,p,q,r,s,t,u,v,w,x,y,z,A,B 𝔇D,E,F,G 𝔍J,K,L,M,N,O",
  "𝔓P,Q 𝔖S,T,U,V,W,X,Y 𝔞a,b,c,d,e,f,g,h,i,j,k,l,m,n,o,p,q,r,s,t,u,v,w,x,y,z,A,B 𝔻D,E,F,G 𝕀I,J,K,L",
  "𝕄M 𝕆O 𝕊S,T,U,V,W,X,Y 𝕒a,b,c,d,e,f,g,h,i,j,k,l,m,n,o,p,q,r,s,t,u,v,w,x,y,z,A,B,C,D,E,F,G,H,I,J,K",
  "𝕷L,M,N,O,P,Q,R,S,T,U,V,W,X,Y,Z,a,b,c,d,e,f,g,h,i,j,k,l,m,n,o,p,q,r,s,t,u,v,w,x,y,z,A,B,C,D,E,F",
  "𝖦G,H,I,J,K,L,M,N,O,P,Q,R,S,T,U,V,W,X,Y,Z,a,b,c,d,e,f,g,h,i,j,k,l,m,n,o,p,q,r,s,t,u,v,w,x,y,z,A",
  "𝗕B,C,D,E,F,G,H,I,J,K,L,M,N,O,P,Q,R,S,T,U,V,W,X,Y,Z,a,b,c,d,e,f,g,h,i,j,k,l,m,n,o,p,q,r,s,t,u,v",
  "𝘄w,x,y,z,A,B,C,D,E,F,G,H,I,J,K,L,M,N,O,P,Q,R,S,T,U,V,W,X,Y,Z,a,b,c,d,e,f,g,h,i,j,k,l,m,n,o,p,q",
  "𝘳r,s,t,u,v,w,x,y,z,A,B,C,D,E,F,G,H,I,J,K,L,M,N,O,P,Q,R,S,T,U,V,W,X,Y,Z,a,b,c,d,e,f,g,h,i,j,k,l",
  "𝙢m,n,o,p,q,r,s,t,u,v,w,x,y,z,A,B,C,D,E,F,G,H,I,J,K,L,M,N,O,P,Q,R,S,T,U,V,W,X,Y,Z,a,b,c,d,e,f,g",
  "𝚑h,i,j,k,l,m,n,o,p,q,r,s,t,u,v,w,x,y,z,ı,ȷ 𝚨Α,Β,Γ,Δ,Ε,Ζ,Η,Θ,Ι,Κ,Λ,Μ,Ν,Ξ,Ο,Π,Ρ,Θ,Σ,Τ,Υ,Φ,Χ,Ψ,Ω",
  "𝛂α,β,γ,δ,ε,ζ,η,θ,ι,κ,λ,μ,ν,ξ,ο,π,ρ,ς,σ,τ,υ,φ,χ,ψ,ω 𝛜ε,θ,κ,φ,ρ,π,Α,Β,Γ,Δ,Ε,Ζ,Η,Θ,Ι,Κ,Λ,Μ,Ν,Ξ,Ο,Π",
  "𝛲Ρ,Θ,Σ,Τ,Υ,Φ,Χ,Ψ,Ω 𝛼α,β,γ,δ,ε,ζ,η,θ,ι,κ,λ,μ,ν,ξ,ο,π,ρ,ς,σ,τ,υ,φ,χ,ψ,ω 𝜖ε,θ,κ,φ,ρ,π,Α,Β,Γ,Δ,Ε,Ζ",
  "𝜢Η,Θ,Ι,Κ,Λ,Μ,Ν,Ξ,Ο,Π,Ρ,Θ,Σ,Τ,Υ,Φ,Χ,Ψ,Ω 𝜶α,β,γ,δ,ε,ζ,η,θ,ι,κ,λ,μ,ν,ξ,ο,π,ρ,ς,σ,τ,υ,φ,χ,ψ,ω 𝝐ε,θ",
  "𝝒κ,φ,ρ,π,Α,Β,Γ,Δ,Ε,Ζ,Η,Θ,Ι,Κ,Λ,Μ,Ν,Ξ,Ο,Π,Ρ,Θ,Σ,Τ,Υ,Φ,Χ,Ψ,Ω 𝝰α,β,γ,δ,ε,ζ,η,θ,ι,κ,λ,μ,ν,ξ,ο,π,ρ,ς",
  "𝞂σ,τ,υ,φ,χ,ψ,ω 𝞊ε,θ,κ,φ,ρ,π,Α,Β,Γ,Δ,Ε,Ζ,Η,Θ,Ι,Κ,Λ,Μ,Ν,Ξ,Ο,Π,Ρ,Θ,Σ,Τ,Υ,Φ,Χ,Ψ,Ω 𝞪α,β,γ,δ,ε,ζ,η,θ",
  "𝞲ι,κ,λ,μ,ν,ξ,ο,π,ρ,ς,σ,τ,υ,φ,χ,ψ,ω 𝟄ε,θ,κ,φ,ρ,π,Ϝ,ϝ 𝟎0,1,2,3,4,5,6,7,8,9,0,1,2,3,4,5,6,7,8,9,0",
  "𝟣1,2,3,4,5,6,7,8,9,0,1,2,3,4,5,6,7,8,9,0,1,2,3,4,5,6,7,8,9 𞸀ا,ب,ج,د 𞸅و,ز,ح,ط,ي,ك,ل,م,ن,س,ع,ف,ص",
  "𞸒ق,ر,ش,ت,ث,خ,ذ,ض,ظ,غ,ٮ,ں,ڡ,ٯ 𞸡ب,ج 𞸤ه 𞸧ح 𞸩ي,ك,ل,م,ن,س,ع,ف,ص,ق 𞸴ش,ت,ث,خ 𞸹ض 𞸻غ 𞹂ج 𞹇ح 𞹉ي 𞹋ل 𞹍ن,س,ع",
  "𞹑ص,ق 𞹔ش 𞹗خ 𞹙ض 𞹛غ 𞹝ں 𞹟ٯ 𞹡ب,ج 𞹤ه 𞹧ح,ط,ي,ك 𞹬م,ن,س,ع,ف,ص,ق 𞹴ش,ت,ث,خ 𞹹ض,ظ,غ,ٮ 𞹾ڡ 𞺀ا,ب,ج,د,ه,و,ز,ح,ط",
  "𞺉ي 𞺋ل,م,ن,س,ع,ف,ص,ق,ر,ش,ت,ث,خ,ذ,ض,ظ,غ 𞺡ب,ج,د 𞺥و,ز,ح,ط,ي 𞺫ل,م,ن,س,ع,ف,ص,ق,ر,ش,ت,ث,خ,ذ,ض,ظ,غ 🯰0,1",
  "🯲2,3,4,5,6,7,8,9 丽丽,丸,乁,𠄢,你,侮,侻,倂,偺,備,僧,像,㒞,𠘺,免,兔,兤,具,𠔜,㒹,內,再,𠕋,冗,冤,仌,冬,况,𩇟,凵,刃,㓟,刻,剆,割,剷,㔕,勇,勉",
  "勤勤,勺,包,匆,北,卉,卑,博,即,卽,卿,卿,卿,𠨬,灰,及,叟,𠭣,叫,叱,吆,咞,吸,呈,周,咢,哶,唐,啓,啣,善,善,喙,喫,喳,嗂,圖,嘆,圗,噑,噴,切,壮,城,埴,堍,型",
  "堲堲,報,墬,𡓤,売,壷,夆,多,夢,奢,𡚨,𡛪,姬,娛,娧,姘,婦,㛮,㛼,嬈,嬾,嬾,𡧈,寃,寘,寧,寳,𡬘,寿,将,当,尢,㞁,屠,屮,峀,岍,𡷤,嵃,𡷦,嵮,嵫,嵼,巡,巢,㠯,巽",
  "帨帨,帽,幩,㡢,𢆃,㡼,庰,庳,庶,廊,𪎒,廾,𢌱,𢌱,舁,弢,弢,㣇,𣊸,𦇚,形,彫,㣣,徚,忍,志,忹,悁,㤺,㤜,悔,𢛔,惇,慈,慌,慎,慌,慺,憎,憲,憤,憯,懞,懲,懶,成,戛",
  "扝扝,抱,拔,捐,𢬌,挽,拼,捨,掃,揤,𢯱,搢,揅,掩,㨮,摩,摾,撝,摷,㩬,敏,敬,𣀊,旣,書,晉,㬙,暑,㬈,㫤,冒,冕,最,暜,肭,䏙,朗,望,朡,杞,杓,𣏃,㭉,柺,枅,桒,梅",
  "𣑭𣑭,梎,栟,椔,㮝,楂,榣,槪,檨,𣚣,櫛,㰘,次,𣢧,歔,㱎,歲,殟,殺,殻,𣪍,𡴋,𣫺,汎,𣲼,沿,泍,汧,洖,派,海,流,浩,浸,涅,𣴞,洴,港,湮,㴳,滋,滇,𣻑,淹,潮,𣽞,𣾎",
  "濆濆,瀹,瀞,瀛,㶖,灊,災,灷,炭,𠔥,煅,𤉣,熜,𤎫,爨,爵,牐,𤘈,犀,犕,𤜵,𤠔,獺,王,㺬,玥,㺸,㺸,瑇,瑜,瑱,璅,瓊,㼛,甤,𤰶,甾,𤲒,異,𢆟,瘐,𤾡,𤾸,𥁄,㿼,䀈,直",
  "𥃳𥃳,𥃲,𥄙,𥄳,眞,真,真,睊,䀹,瞋,䁆,䂖,𥐝,硎,碌,磌,䃣,𥘦,祖,𥚚,𥛅,福,秫,䄯,穀,穊,穏,𥥼,𥪧,𥪧,竮,䈂,𥮫,篆,築,䈧,𥲀,糒,䊠,糨,糣,紀,𥾆,絣,䌁,緇,縂",
  "繅繅,䌴,𦈨,𦉇,䍙,𦋙,罺,𦌾,羕,翺,者,𦓚,𦔣,聠,𦖨,聰,𣍟,䏕,育,脃,䐋,脾,媵,𦞧,𦞵,𣎓,𣎜,舁,舄,辞,䑫,芑,芋,芝,劳,花,芳,芽,苦,𦬼,若,茝,荣,莭,茣,莽,菧",
  "著著,荓,菊,菌,菜,𦰶,𦵫,𦳕,䔫,蓱,蓳,蔖,𧏊,蕤,𦼬,䕝,䕡,𦾱,𧃒,䕫,虐,虜,虧,虩,蚩,蚈,蜎,蛢,蝹,蜨,蝫,螆,䗗,蟡,蠁,䗹,衠,衣,𧙧,裗,裞,䘵,裺,㒻,𧢮,𧥦,䚾",
  "䛇䛇,誠,諭,變,豕,𧲨,貫,賁,贛,起,𧼯,𠠄,跋,趼,跰,𠣞,軔,輸,𨗒,𨗭,邔,郱,鄑,𨜮,鄛,鈸,鋗,鋘,鉼,鏹,鐕,𨯺,開,䦕,閷,𨵷,䧦,雃,嶲,霣,𩅅,𩈚,䩮,䩶,韠,𩐊,䪲",
  "𩒖𩒖,頋,頋,頩,𩖶,飢,䬳,餩,馧,駂,駾,䯎,𩬰,鬒,鱀,鳽,䳎,䳭,鵧,𪃎,䳸,𪄅,𪈎,𪊑,麻,䵖,黹,黾,鼅,鼏,鼖,鼻,𪘀"]

def decompositions : List (Char × List Char) :=
  (decompositionEntries.flatMap fun line => pieces [' '] line.toList).flatMap fun entry =>
    match entry with
    | c :: expansions =>
      (pieces [','] expansions).zipIdx.map fun (s, n) => (Char.ofNat (c.toNat + n), s)
    | [] => []

end TypedTemplate.Text.Normal
