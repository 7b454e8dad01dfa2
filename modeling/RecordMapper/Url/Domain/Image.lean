import RecordMapper.Text.Block
import RecordMapper.Text.Graphic
import RecordMapper.Text.LetterCase
import RecordMapper.Text.Split
import RecordMapper.Url.Domain.Joining

/-! # Characters of domains

Texts that a reader takes for the same domain have to give the same domain. So a domain is not made
of the characters that spell it but of their images: letters become small letters, variants of form
become the plain characters, compounds become what they are made of, and characters without
substance fall away. Some characters have no image: no domain contains them.
-/

namespace RecordMapper.Url.Domain

open RecordMapper.Text

/-- Variants of single characters: stretches with the first one and the images of all. -/
def variantBlocks : List (Nat × String) := [
  (0xa0, " "),
  (0xaa, "a"),
  (0xb2, "23"),
  (0xb5, "μ"),
  (0xb9, "1o"),
  (0x17f, "s"),
  (0x2b0, "hɦjrɹɻʁwy"),
  (0x2e0, "ɣlsxʕ"),
  (0x345, "ι"),
  (0x3d0, "βθυύϋφπ"),
  (0x3f0, "κρσ"),
  (0x3f5, "ε"),
  (0x3f9, "σ"),
  (0xf0c, "་"),
  (0x10fc, "ნ"),
  (0x13f8, "ᏰᏱᏲᏳᏴᏵ"),
  (0x1c80, "вдосттъѣꙋ"),
  (0x1d2c, "aæb"),
  (0x1d30, "deǝghijklmn"),
  (0x1d3c, "oȣprtuwaɐɑᴂbdeəɛɜg"),
  (0x1d4f, "kmŋoɔᴖᴗptuᴝɯvᴥβγδφχiruvβγρφχ"),
  (0x1d78, "н"),
  (0x1d9b, "ɒcɕðɜfɟɡɥɨɩɪᵻʝɭᶅʟɱɰɲɳɴɵɸʂʃƫʉʊᴜʋʌzʐʑʒθ"),
  (0x1e9b, "ṡ"),
  (0x1fbb, "ά"),
  (0x1fc9, "έ"),
  (0x1fcb, "ή"),
  (0x1fdb, "ί"),
  (0x1feb, "ύ"),
  (0x1ff9, "ό"),
  (0x1ffb, "ώ"),
  (0x2000, "           "),
  (0x2011, "‐"),
  (0x202f, " "),
  (0x205f, " "),
  (0x2070, "0i"),
  (0x2074, "456789+−=()n0123456789+−=()"),
  (0x2090, "aeoxəhklmnpst"),
  (0x2102, "c"),
  (0x2107, "ɛ"),
  (0x210a, "ghhhhħiill"),
  (0x2115, "n"),
  (0x2119, "pqrrr"),
  (0x2124, "z"),
  (0x2128, "z"),
  (0x212c, "bc"),
  (0x212f, "eef"),
  (0x2133, "moאבגדi"),
  (0x213c, "πγγπ∑"),
  (0x2145, "ddeij"),
  (0x2160, "i"),
  (0x2164, "v"),
  (0x2169, "x"),
  (0x216c, "lcdmi"),
  (0x2174, "v"),
  (0x2179, "x"),
  (0x217c, "lcdm"),
  (0x2460, "123456789"),
  (0x24b6, "abcdefghijklmnopqrstuvwxyzabcdefghijklmnopqrstuvwxyz0"),
  (0x2c7c, "jv"),
  (0x2d6f, "ⵡ"),
  (0x2e9f, "母"),
  (0x2ef3, "龟"),
  (0x2f00, "一丨丶丿乙亅二亠人儿入八冂冖冫几凵刀力勹匕匚匸十卜卩厂厶又口囗土士夂夊夕大女子宀寸小尢尸屮山巛工己巾干幺广廴廾弋弓彐彡彳心戈戶手支攴文斗斤方无日曰月木欠止歹殳毋比毛氏气水"),
  (0x2f55, "火爪父爻爿片牙牛犬玄玉瓜瓦甘生用田疋疒癶白皮皿目矛矢石示禸禾穴立竹米糸缶网羊羽老而耒耳聿肉臣自至臼舌舛舟艮色艸虍虫血行衣襾見角言谷豆豕豸貝赤走足身車辛辰辵邑酉釆里金長門阜"),
  (0x2faa, "隶隹雨靑非面革韋韭音頁風飛食首香馬骨高髟鬥鬯鬲鬼魚鳥鹵鹿麥麻黃黍黑黹黽鼎鼓鼠鼻齊齒龍龜龠"),
  (0x3000, " "),
  (0x3002, "."),
  (0x3036, "〒"),
  (0x3038, "十卄卅"),
  (0x3131, "ᄀᄁᆪᄂᆬᆭᄃᄄᄅᆰᆱᆲᆳᆴᆵᄚᄆᄇᄈᄡᄉᄊᄋᄌᄍᄎᄏᄐᄑ하ᅢᅣᅤᅥᅦᅧᅨᅩᅪᅫᅬᅭᅮᅯᅰᅱᅲᅳᅴᅵ"),
  (0x3165, "ᄔᄕᇇᇈᇌᇎᇓᇗᇙᄜᇝᇟᄝᄞᄠᄢᄣᄧᄩᄫᄬᄭᄮᄯᄲᄶᅀᅇᅌᇱᇲᅗᅘᅙᆄᆅᆈᆑᆒᆔᆞᆡ"),
  (0x3192, "一二三四上中下甲乙丙丁天地人"),
  (0x3244, "問幼文箏"),
  (0x3260, "ᄀᄂᄃᄅᄆᄇᄉᄋᄌᄎᄏᄐᄑᄒ가나다라마바사아자차카타파하"),
  (0x327e, "우"),
  (0x3280, "一二三四五六七八九十月火水木金土日株有社名特財祝労秘男女適優印注項休写正上中下左右医宗学監企資協夜"),
  (0x32d0, "アイウエオカキクケコサシスセソタチツテトナニヌネノハヒフヘホマミムメモヤユヨラリルレロワヰヱヲ"),
  (0xa69c, "ъь"),
  (0xa770, "ꝯ"),
  (0xa7f1, "scfq"),
  (0xa7f8, "ħœ"),
  (0xab5c, "ꜧꬷɫꭒ"),
  (0xab69, "ʍ"),
  (0xab70, "ᎠᎡᎢᎣᎤᎥᎦᎧᎨᎩᎪᎫᎬᎭᎮᎯᎰᎱᎲᎳᎴᎵᎶᎷᎸᎹᎺᎻᎼᎽᎾᎿᏀᏁᏂᏃᏄᏅᏆᏇᏈᏉᏊᏋᏌᏍᏎᏏᏐᏑᏒᏓᏔᏕᏖᏗᏘᏙᏚᏛᏜᏝᏞᏟᏠᏡᏢᏣᏤᏥᏦᏧᏨᏩᏪᏫᏬᏭᏮᏯ"),
  (0xfb20, "עאדהכלםרת+"),
  (0xfb50, "ٱٱٻٻٻٻپپپپڀڀڀڀٺٺٺٺٿٿٿٿٹٹٹٹڤڤڤڤڦڦڦڦڄڄڄڄڃڃڃڃچچچچڇڇڇڇڍڍڌڌڎڎڈڈژژڑڑککککگگگگڳڳڳڳڱڱڱڱںںڻڻڻڻۀ"),
  (0xfba5, "ۀہہہہھھھھےےۓۓ"),
  (0xfbd3, "ڭڭڭڭۇۇۆۆۈۈ"),
  (0xfbde, "ۋۋۅۅۉۉېېېېىى"),
  (0xfbfc, "یییی"),
  (0xfe10, ",、"),
  (0xfe13, ":;!?〖〗"),
  (0xfe31, "—–__()\x7b\x7d〔〕【】《》〈〉「」『』"),
  (0xfe47, "[]"),
  (0xfe4d, "___,、"),
  (0xfe54, ";:?!—()\x7b\x7d〔〕#&*+-<>="),
  (0xfe68, "\\$%@"),
  (0xfe80, "ءآآأأؤؤإإئئئئااببببةةتتتتثثثثججججححححخخخخددذذررززسسسسششششصصصصضضضضططططظظظظععععغغغغفففف"),
  (0xfed5, "ققققككككللللممممننننههههووىىيييي"),
  (0xff01, "!\"#$%&'()*+,-./0123456789:;<=>?@abcdefghijklmnopqrstuvwxyz[\\]^_\x60abcdefghijklmnop"),
  (0xff51, "qrstuvwxyz\x7b|\x7d~⦅⦆.「」、・ヲァィゥェォャュョッーアイウエオカキクケコサシスセソタチツテトナニヌネノハヒフヘホマミムメモヤユヨラリルレロワン"),
  (0xff9e, "\u3099\u309a"),
  (0xffa1, "ᄀᄁᆪᄂᆬᆭᄃᄄᄅᆰᆱᆲᆳᆴᆵᄚᄆᄇᄈᄡᄉᄊᄋᄌᄍᄎᄏᄐᄑᄒ"),
  (0xffc2, "ᅡᅢᅣᅤᅥᅦ"),
  (0xffca, "ᅧᅨᅩᅪᅫᅬ"),
  (0xffd2, "ᅭᅮᅯᅰᅱᅲ"),
  (0xffda, "ᅳᅴᅵ"),
  (0xffe0, "¢£¬"),
  (0xffe4, "¦¥₩"),
  (0xffe8, "│←↑→↓■○"),
  (0x10781, "ːˑæʙɓ"),
  (0x10787, "ʣꭦʥʤɖɗᶑɘɞʩɤɢɠʛħʜɧʄʪʫɬ𝼄ꞎɮ𝼅ʎ𝼆øɶɷqɺ𝼈ɽɾʀʨʦꭧʧʈⱱ"),
  (0x107b2, "ʏʡʢʘǀǁǂ𝼊𝼞"),
  (0x1ccd6, "abcdefghijklmnopqrstuvwxyz0123456789"),
  (0x1d400, "abcdefghijklmnopqrstuvwxyzabcdefghijklmnopqrstuvwxyzabcdefghijklmnopqrstuvwxyzabcdef"),
  (0x1d454, "g"),
  (0x1d456, "ijklmnopqrstuvwxyzabcdefghijklmnopqrstuvwxyzabcdefghijklmnopqrstuvwxyza"),
  (0x1d49e, "cd"),
  (0x1d4a2, "g"),
  (0x1d4a5, "jk"),
  (0x1d4a9, "nopq"),
  (0x1d4ae, "stuvwxyzabcd"),
  (0x1d4bb, "f"),
  (0x1d4bd, "hijklmn"),
  (0x1d4c5, "pqrstuvwxyzabcdefghijklmnopqrstuvwxyzabcdefghijklmnopqrstuvwxyzab"),
  (0x1d507, "defg"),
  (0x1d50d, "jklmnopq"),
  (0x1d516, "stuvwxy"),
  (0x1d51e, "abcdefghijklmnopqrstuvwxyzab"),
  (0x1d53b, "defg"),
  (0x1d540, "ijklm"),
  (0x1d546, "o"),
  (0x1d54a, "stuvwxy"),
  (0x1d552, "abcdefghijklmnopqrstuvwxyzabcdefghijklmnopqrstuvwxyzabcdefghijklmnopqrstuvwxyzabcdef"),
  (0x1d5a6, "ghijklmnopqrstuvwxyzabcdefghijklmnopqrstuvwxyzabcdefghijklmnopqrstuvwxyzabcdefghijkl"),
  (0x1d5fa, "mnopqrstuvwxyzabcdefghijklmnopqrstuvwxyzabcdefghijklmnopqrstuvwxyzabcdefghijklmnopqr"),
  (0x1d64e, "stuvwxyzabcdefghijklmnopqrstuvwxyzabcdefghijklmnopqrstuvwxyzabcdefghijklmnopqrstuvwx"),
  (0x1d6a2, "yzıȷ"),
  (0x1d6a8, "αβγδεζηθικλμνξοπρθστυφχψω∇αβγδεζηθικλμνξοπρσστυφχψω∂εθκφρπαβγδεζηθικλμνξοπρθστυφχψω∇"),
  (0x1d6fc, "αβγδεζηθικλμνξοπρσστυφχψω∂εθκφρπαβγδεζηθικλμνξοπρθστυφχψω∇αβγδεζηθικλμνξοπρσστυφχψω∂"),
  (0x1d750, "εθκφρπαβγδεζηθικλμνξοπρθστυφχψω∇αβγδεζηθικλμνξοπρσστυφχψω∂εθκφρπαβγδεζηθικλμνξοπρθστ"),
  (0x1d7a4, "υφχψω∇αβγδεζηθικλμνξοπρσστυφχψω∂εθκφρπϝϝ"),
  (0x1d7ce, "01234567890123456789012345678901234567890123456789"),
  (0x1e030, "абвгдежзиклмопрстуфхцчшыэюꚉәіјөүӏабвгдежзиклопсуфхцчшъыґіѕџҫꙑұ"),
  (0x1ee00, "ابجد"),
  (0x1ee05, "وزحطيكلمنسعفصقرشتثخذضظغٮںڡٯ"),
  (0x1ee21, "بج"),
  (0x1ee24, "ه"),
  (0x1ee27, "ح"),
  (0x1ee29, "يكلمنسعفصق"),
  (0x1ee34, "شتثخ"),
  (0x1ee39, "ض"),
  (0x1ee3b, "غ"),
  (0x1ee42, "ج"),
  (0x1ee47, "ح"),
  (0x1ee49, "ي"),
  (0x1ee4b, "ل"),
  (0x1ee4d, "نسع"),
  (0x1ee51, "صق"),
  (0x1ee54, "ش"),
  (0x1ee57, "خ"),
  (0x1ee59, "ض"),
  (0x1ee5b, "غ"),
  (0x1ee5d, "ں"),
  (0x1ee5f, "ٯ"),
  (0x1ee61, "بج"),
  (0x1ee64, "ه"),
  (0x1ee67, "حطيك"),
  (0x1ee6c, "منسعفصق"),
  (0x1ee74, "شتثخ"),
  (0x1ee79, "ضظغٮ"),
  (0x1ee7e, "ڡ"),
  (0x1ee80, "ابجدهوزحطي"),
  (0x1ee8b, "لمنسعفصقرشتثخذضظغ"),
  (0x1eea1, "بجد"),
  (0x1eea5, "وزحطي"),
  (0x1eeab, "لمنسعفصقرشتثخذضظغ"),
  (0x1f12b, "cr"),
  (0x1f130, "abcdefghijklmnopqrstuvwxyz"),
  (0x1f202, "サ"),
  (0x1f210, "手字双デ二多解天交映無料前後再新初終生販声吹演投捕一三遊左中右指走打禁空合満有月申割営配"),
  (0x1f250, "得可"),
  (0x1fbf0, "0123456789")]

/-- Compounds: stretches with the first one and the images of all, with bars between. -/
def compoundBlocks : List (Nat × String) := [
  (0xa8, " \u0308"),
  (0xaf, " \u0304"),
  (0xb4, " \u0301"),
  (0xb8, " \u0327"),
  (0xbc, "1⁄4|1⁄2|3⁄4"),
  (0x132, "ij|ij"),
  (0x13f, "l·|l·"),
  (0x149, "ʼn"),
  (0x1c4, "dž|dž|dž|lj|lj|lj|nj|nj|nj"),
  (0x1f1, "dz|dz|dz"),
  (0x2d8, " \u0306| \u0307| \u030a| \u0328| \u0303| \u030b"),
  (0x37a, " ι"),
  (0x384, " \u0301| \u0308\u0301"),
  (0x587, "եւ"),
  (0x675, "اٴ|وٴ|ۇٴ|يٴ"),
  (0xe33, "\u0e4dา"),
  (0xeb3, "\u0ecdາ"),
  (0xedc, "ຫນ|ຫມ"),
  (0xf77, "\u0fb2\u0f71\u0f80"),
  (0xf79, "\u0fb3\u0f71\u0f80"),
  (0x1e9a, "aʾ"),
  (0x1f80, "ἀι|ἁι|ἂι|ἃι|ἄι|ἅι|ἆι|ἇι|ἀι|ἁι|ἂι|ἃι|ἄι|ἅι|ἆι|ἇι|ἠι|ἡι|ἢι|ἣι|ἤι|ἥι|ἦι|ἧι|ἠι|ἡι|ἢι|ἣι"),
  (0x1f9c, "ἤι|ἥι|ἦι|ἧι|ὠι|ὡι|ὢι|ὣι|ὤι|ὥι|ὦι|ὧι|ὠι|ὡι|ὢι|ὣι|ὤι|ὥι|ὦι|ὧι"),
  (0x1fb2, "ὰι|αι|άι"),
  (0x1fb7, "ᾶι"),
  (0x1fbc, "αι| \u0313"),
  (0x1fbf, " \u0313| \u0342| \u0308\u0342|ὴι|ηι|ήι"),
  (0x1fc7, "ῆι"),
  (0x1fcc, "ηι| \u0313\u0300| \u0313\u0301| \u0313\u0342"),
  (0x1fdd, " \u0314\u0300| \u0314\u0301| \u0314\u0342"),
  (0x1fed, " \u0308\u0300| \u0308\u0301"),
  (0x1ff2, "ὼι|ωι|ώι"),
  (0x1ff7, "ῶι"),
  (0x1ffc, "ωι| \u0301| \u0314"),
  (0x2017, " \u0333"),
  (0x2033, "′′|′′′"),
  (0x2036, "‵‵|‵‵‵"),
  (0x203c, "!!"),
  (0x203e, " \u0305"),
  (0x2047, "??|?!|!?"),
  (0x2057, "′′′′"),
  (0x20a8, "rs"),
  (0x2100, "a/c|a/s"),
  (0x2103, "°c"),
  (0x2105, "c/o|c/u"),
  (0x2109, "°f"),
  (0x2116, "no"),
  (0x2120, "sm|tel|tm"),
  (0x213b, "fax"),
  (0x2150, "1⁄7|1⁄9|1⁄10|1⁄3|2⁄3|1⁄5|2⁄5|3⁄5|4⁄5|1⁄6|5⁄6|1⁄8|3⁄8|5⁄8|7⁄8|1⁄"),
  (0x2161, "ii|iii|iv"),
  (0x2165, "vi|vii|viii|ix"),
  (0x216a, "xi|xii"),
  (0x2171, "ii|iii|iv"),
  (0x2175, "vi|vii|viii|ix"),
  (0x217a, "xi|xii"),
  (0x2189, "0⁄3"),
  (0x222c, "∫∫|∫∫∫"),
  (0x222f, "∮∮|∮∮∮"),
  (0x2469, "10|11|12|13|14|15|16|17|18|19|20|(1)|(2)|(3)|(4)|(5)|(6)|(7)|(8)|(9)|(10)|(11)|(12)"),
  (0x2480, "(13)|(14)|(15)|(16)|(17)|(18)|(19)|(20)"),
  (0x249c, "(a)|(b)|(c)|(d)|(e)|(f)|(g)|(h)|(i)|(j)|(k)|(l)|(m)|(n)|(o)|(p)|(q)|(r)|(s)|(t)|(u)"),
  (0x24b1, "(v)|(w)|(x)|(y)|(z)"),
  (0x2a0c, "∫∫∫∫"),
  (0x2a74, "::=|==|==="),
  (0x309b, " \u3099| \u309a"),
  (0x309f, "より"),
  (0x30ff, "コト"),
  (0x3200, "(ᄀ)|(ᄂ)|(ᄃ)|(ᄅ)|(ᄆ)|(ᄇ)|(ᄉ)|(ᄋ)|(ᄌ)|(ᄎ)|(ᄏ)|(ᄐ)|(ᄑ)|(ᄒ)|(가)|(나)|(다)|(라)|(마)|(바)|(사)"),
  (0x3215, "(아)|(자)|(차)|(카)|(타)|(파)|(하)|(주)|(오전)|(오후)"),
  (0x3220, "(一)|(二)|(三)|(四)|(五)|(六)|(七)|(八)|(九)|(十)|(月)|(火)|(水)|(木)|(金)|(土)|(日)|(株)|(有)|(社)|(名)"),
  (0x3235, "(特)|(財)|(祝)|(労)|(代)|(呼)|(学)|(監)|(企)|(資)|(協)|(祭)|(休)|(自)|(至)"),
  (0x3250, "pte|21|22|23|24|25|26|27|28|29|30|31|32|33|34|35"),
  (0x327c, "참고|주의"),
  (0x32b1, "36|37|38|39|40|41|42|43|44|45|46|47|48|49|50|1月|2月|3月|4月|5月|6月|7月|8月|9月|10月|11月|12月"),
  (0x32cc, "hg|erg|ev|ltd"),
  (0x32ff, "令和|アパート|アルファ|アンペア|アール|イニング|インチ|ウォン|エスクード|エーカー|オンス|オーム|カイリ|カラット|カロリー|ガロン|ガンマ|ギガ|ギニー"),
  (0x3312, "キュリー|ギルダー|キロ|キログラム|キロメートル|キロワット|グラム|グラムトン|クルゼイロ|クローネ|ケース|コルナ|コーポ|サイクル|サンチーム|シリング|センチ"),
  (0x3323, "セント|ダース|デシ|ドル|トン|ナノ|ノット|ハイツ|パーセント|パーツ|バーレル|ピアストル|ピクル|ピコ|ビル|ファラッド|フィート|ブッシェル|フラン|ヘクタール"),
  (0x3337, "ペソ|ペニヒ|ヘルツ|ペンス|ページ|ベータ|ポイント|ボルト|ホン|ポンド|ホール|ホーン|マイクロ|マイル|マッハ|マルク|マンション|ミクロン|ミリ|ミリバール"),
  (0x334b, "メガ|メガトン|メートル|ヤード|ヤール|ユアン|リットル|リラ|ルピー|ルーブル|レム|レントゲン|ワット|0点|1点|2点|3点|4点|5点|6点|7点|8点|9点"),
  (0x3362, "10点|11点|12点|13点|14点|15点|16点|17点|18点|19点|20点|21点|22点|23点|24点|hpa|da|au|bar|ov|pc|dm"),
  (0x3378, "dm2|dm3|iu|平成|昭和|大正|明治|株式会社|pa|na|μa|ma|ka|kb|mb|gb|cal|kcal|pf|nf|μf|μg|mg|kg|hz|khz"),
  (0x3392, "mhz|ghz|thz|μl|ml|dl|kl|fm|nm|μm|mm|cm|km|mm2|cm2|m2|km2|mm3|cm3|m3|km3|m∕s|m∕s2|pa"),
  (0x33aa, "kpa|mpa|gpa|rad|rad∕s|rad∕s2|ps|ns|μs|ms|pv|nv|μv|mv|kv|mv|pw|nw|μw|mw|kw|mw|kω|mω"),
  (0x33c3, "bq|cc|cd|c∕kg"),
  (0x33c8, "db|gy|ha|hp|in|kk|km|kt|lm|ln|log|lx|mb|mil|mol|ph"),
  (0x33d9, "ppm|pr|sr|sv|wb|v∕m|a∕m|1日|2日|3日|4日|5日|6日|7日|8日|9日|10日|11日|12日|13日|14日|15日|16日|17日"),
  (0x33f1, "18日|19日|20日|21日|22日|23日|24日|25日|26日|27日|28日|29日|30日|31日|gal"),
  (0xfb00, "ff|fi|fl|ffi|ffl|st|st"),
  (0xfb13, "մն|մե|մի|վն|մխ"),
  (0xfb4f, "אל"),
  (0xfbdd, "ۇٴ"),
  (0xfbea, "ئا|ئا|ئە|ئە|ئو|ئو|ئۇ|ئۇ|ئۆ|ئۆ|ئۈ|ئۈ|ئې|ئې|ئې|ئى|ئى|ئى"),
  (0xfc00, "ئج|ئح|ئم|ئى|ئي|بج|بح|بخ|بم|بى|بي|تج|تح|تخ|تم|تى|تي|ثج|ثم|ثى|ثي|جح|جم|حج|حم|خج|خح|خم"),
  (0xfc1c, "سج|سح|سخ|سم|صح|صم|ضج|ضح|ضخ|ضم|طح|طم|ظم|عج|عم|غج|غم|فج|فح|فخ|فم|فى|في|قح|قم|قى|قي|كا"),
  (0xfc38, "كج|كح|كخ|كل|كم|كى|كي|لج|لح|لخ|لم|لى|لي|مج|مح|مخ|مم|مى|مي|نج|نح|نخ|نم|نى|ني|هج|هم|هى"),
  (0xfc54, "هي|يج|يح|يخ|يم|يى|يي|ذ\u0670|ر\u0670|ى\u0670| \u064c\u0651| \u064d\u0651"),
  (0xfc60, " \u064e\u0651| \u064f\u0651| \u0650\u0651| \u0651\u0670|ئر|ئز|ئم|ئن|ئى|ئي|بر|بز|بم|بن"),
  (0xfc6e, "بى|بي|تر|تز|تم|تن|تى|تي|ثر|ثز|ثم|ثن|ثى|ثي|فى|في|قى|قي|كا|كل|كم|كى|كي|لم|لى|لي|ما|مم"),
  (0xfc8a, "نر|نز|نم|نن|نى|ني|ى\u0670|ير|يز|يم|ين|يى|يي|ئج|ئح|ئخ|ئم|ئه|بج|بح|بخ|بم|به|تج|تح|تخ|تم"),
  (0xfca5, "ته|ثم|جح|جم|حج|حم|خج|خم|سج|سح|سخ|سم|صح|صخ|صم|ضج|ضح|ضخ|ضم|طح|ظم|عج|عم|غج|غم|فج|فح|فخ"),
  (0xfcc1, "فم|قح|قم|كج|كح|كخ|كل|كم|لج|لح|لخ|لم|له|مج|مح|مخ|مم|نج|نح|نخ|نم|نه|هج|هم|ه\u0670|يج|يح"),
  (0xfcdc, "يخ|يم|يه|ئم|ئه|بم|به|تم|ته|ثم|ثه|سم|سه|شم|شه|كل|كم|لم|نم|نه|يم|يه|ـ\u064e\u0651"),
  (0xfcf3, "ـ\u064f\u0651|ـ\u0650\u0651|طى|طي|عى|عي|غى|غي|سى|سي|شى|شي|حى|حي|جى|جي|خى|خي|صى|صي|ضى"),
  (0xfd08, "ضي|شج|شح|شخ|شم|شر|سر|صر|ضر|طى|طي|عى|عي|غى|غي|سى|سي|شى|شي|حى|حي|جى|جي|خى|خي|صى|صي|ضى"),
  (0xfd24, "ضي|شج|شح|شخ|شم|شر|سر|صر|ضر|شج|شح|شخ|شم|سه|شه|طم|سج|سح|سخ|شج|شح|شخ|طم|ظم|ا\u064b"),
  (0xfd3d, "ا\u064b"),
  (0xfd50, "تجم|تحج|تحج|تحم|تخم|تمج|تمح|تمخ|جمح|جمح|حمي|حمى|سحج|سجح|سجى|سمح|سمح|سمج|سمم|سمم|صحح"),
  (0xfd65, "صحح|صمم|شحم|شحم|شجي|شمخ|شمخ|شمم|شمم|ضحى|ضخم|ضخم|طمح|طمح|طمم|طمي|عجم|عمم|عمم|عمى|غمم"),
  (0xfd7a, "غمي|غمى|فخم|فخم|قمح|قمم|لحم|لحي|لحى|لجج|لجج|لخم|لخم|لمح|لمح|محج|محم|محي|مجح|مجم|مخج"),
  (0xfd8f, "مخم"),
  (0xfd92, "مجخ|همج|همم|نحم|نحى|نجم|نجم|نجى|نمي|نمى|يمم|يمم|بخي|تجي|تجى|تخي|تخى|تمي|تمى|جمي|جحى"),
  (0xfda7, "جمى|سخى|صحي|شحي|ضحي|لجي|لمي|يحي|يجي|يمي|ممي|قمي|نحي|قمح|لحم|عمي|كمي|نجح|مخي|لجم|كمم"),
  (0xfdbc, "لجم|نجح|جحي|حجي|مجي|فمي|بحي|كمم|عجم|صمم|سخي|نجي"),
  (0xfdf0, "صلے|قلے|الله|اكبر|محمد|صلعم|رسول|عليه|وسلم|صلى|صلى الله عليه وسلم|جل جلاله|ریال"),
  (0xfe49, " \u0305| \u0305| \u0305| \u0305"),
  (0xfe70, " \u064b|ـ\u064b| \u064c"),
  (0xfe74, " \u064d"),
  (0xfe76, " \u064e|ـ\u064e| \u064f|ـ\u064f| \u0650|ـ\u0650| \u0651|ـ\u0651| \u0652|ـ\u0652"),
  (0xfef5, "لآ|لآ|لأ|لأ|لإ|لإ|لا|لا"),
  (0xffe3, " \u0304"),
  (0x1f101, "0,|1,|2,|3,|4,|5,|6,|7,|8,|9,"),
  (0x1f110, "(a)|(b)|(c)|(d)|(e)|(f)|(g)|(h)|(i)|(j)|(k)|(l)|(m)|(n)|(o)|(p)|(q)|(r)|(s)|(t)|(u)"),
  (0x1f125, "(v)|(w)|(x)|(y)|(z)|〔s〕"),
  (0x1f12d, "cd|wz"),
  (0x1f14a, "hv|mv|sd|ss|ppv|wc"),
  (0x1f16a, "mc|md|mr"),
  (0x1f190, "dj"),
  (0x1f200, "ほか|ココ"),
  (0x1f240, "〔本〕|〔三〕|〔二〕|〔安〕|〔点〕|〔打〕|〔盗〕|〔勝〕|〔敗〕")]

/-- The characters that fall away. -/
def weightlessRuns : List Nat := [
  0xad, 0xae, 0x34f, 0x350, 0x115f, 0x1161, 0x17b4, 0x17b6, 0x180b, 0x1810, 0x200b, 0x200c,
  0x2060, 0x2065, 0x206a, 0x2070, 0x3164, 0x3165, 0xfe00, 0xfe10, 0xfeff, 0xff00, 0xffa0, 0xffa1,
  0x1bca0, 0x1bca4, 0x1d173, 0x1d17b, 0xe0100, 0xe01f0]

/-- Visible characters that no domain contains. -/
def barredRuns : List Nat := [
  0x2024, 0x2027, 0x2488, 0x249c, 0x2ff0, 0x3000, 0x31ef, 0x31f0, 0x33c2, 0x33c3, 0x33c7, 0x33c8,
  0x33d8, 0x33d9, 0xfe12, 0xfe13, 0xfe19, 0xfe1a, 0xfe30, 0xfe31, 0xfe52, 0xfe53, 0xfffc, 0xfffe,
  0x1f100, 0x1f101]

/-- The letters that are kept although they have a small form. -/
def keptRuns : List Nat := [0x13a0, 0x13f6]

/-- What the compound blocks give for a character, if it lies in one of them. -/
def inCompounds? : List (Nat × String) → Char → Option (List Char)
  | [], _ => none
  | (first, text) :: blocks, c =>
    if first ≤ c.toNat then (splitAt '|' text.toList)[c.toNat - first]? <|> inCompounds? blocks c
    else none

/-- The image of a character, unless no domain contains it. -/
def image? (c : Char) : Option (List Char) :=
  if c.toNat < 128 then some [c.toLower]
  else if isJoiner c then some [c]
  else if inRuns weightlessRuns c.toNat then some []
  else
    match inBlocks? variantBlocks c with
    | some variant => some [variant]
    | none =>
      match inCompounds? compoundBlocks c with
      | some compound => some compound
      | none =>
        if !isVisible c || inRuns barredRuns c.toNat then none
        else if inRuns keptRuns c.toNat then some [c]
        else some (lowerForm c)

/-- The image of a text in composed form, unless one of its characters has none. -/
def textImage? (cs : List Char) : Option (List Char) :=
  (cs.mapM image?).map fun images => images.flatten

end RecordMapper.Url.Domain
