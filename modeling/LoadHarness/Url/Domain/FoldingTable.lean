import LoadHarness.Text.CharSet
import LoadHarness.Text.ShiftRun

/-!
# Letters that stand for others in names

A name has one form whatever letters it is written in: capitals, wide and narrow letters,
ligatures, digits in circles and the like stand for plain letters. The tables hold what goes
beyond lower case. Where the lower case of a letter is not used in names, the letter stands for
itself.
-/

namespace LoadHarness

namespace Domain

/-- Runs of letters that each stand for one other letter. -/
def foldingRuns : List ShiftRun := [
  ⟨5024, 5109, 1, 0⟩, ⟨5112, 5117, 1, -8⟩, ⟨7473, 7481, 2, -7372⟩, ⟨8308, 8313, 1, -8256⟩,
  ⟨8320, 8329, 1, -8272⟩, ⟨9312, 9320, 1, -9263⟩, ⟨9398, 9423, 1, -9301⟩, ⟨9424, 9449, 1, -9327⟩,
  ⟨12602, 12607, 1, -8074⟩, ⟨12613, 12622, 1, -8252⟩, ⟨12623, 12643, 1, -8174⟩,
  ⟨12664, 12668, 1, -8269⟩, ⟨12905, 12909, 1, -8539⟩, ⟨13028, 13033, 1, -538⟩,
  ⟨13038, 13042, 1, -528⟩, ⟨13045, 13050, 1, -525⟩, ⟨43888, 43967, 1, -38864⟩,
  ⟨65281, 65312, 1, -65248⟩, ⟨65313, 65338, 1, -65216⟩, ⟨65339, 65374, 1, -65248⟩,
  ⟨65413, 65418, 1, -52923⟩, ⟨65423, 65427, 1, -52913⟩, ⟨65430, 65435, 1, -52910⟩,
  ⟨65450, 65455, 1, -60922⟩, ⟨65461, 65470, 1, -61100⟩, ⟨65474, 65479, 1, -61025⟩,
  ⟨65482, 65487, 1, -61027⟩, ⟨65490, 65495, 1, -61029⟩, ⟨117974, 117999, 1, -117877⟩,
  ⟨118000, 118009, 1, -117952⟩, ⟨119808, 119833, 1, -119711⟩, ⟨119834, 119859, 1, -119737⟩,
  ⟨119860, 119885, 1, -119763⟩, ⟨119886, 119910, 2, -119789⟩, ⟨119895, 119911, 2, -119789⟩,
  ⟨119912, 119937, 1, -119815⟩, ⟨119938, 119963, 1, -119841⟩, ⟨119978, 119988, 2, -119867⟩,
  ⟨119991, 120015, 2, -119893⟩, ⟨120006, 120014, 2, -119893⟩, ⟨120016, 120041, 1, -119919⟩,
  ⟨120042, 120067, 1, -119945⟩, ⟨120077, 120084, 1, -119971⟩, ⟨120086, 120092, 1, -119971⟩,
  ⟨120094, 120119, 1, -119997⟩, ⟨120124, 120134, 2, -120023⟩, ⟨120138, 120144, 1, -120023⟩,
  ⟨120146, 120171, 1, -120049⟩, ⟨120172, 120197, 1, -120075⟩, ⟨120198, 120223, 1, -120101⟩,
  ⟨120224, 120249, 1, -120127⟩, ⟨120250, 120275, 1, -120153⟩, ⟨120276, 120301, 1, -120179⟩,
  ⟨120302, 120327, 1, -120205⟩, ⟨120328, 120353, 1, -120231⟩, ⟨120354, 120379, 1, -120257⟩,
  ⟨120380, 120405, 1, -120283⟩, ⟨120406, 120431, 1, -120309⟩, ⟨120432, 120457, 1, -120335⟩,
  ⟨120458, 120483, 1, -120361⟩, ⟨120488, 120504, 1, -119543⟩, ⟨120506, 120512, 1, -119543⟩,
  ⟨120514, 120530, 1, -119569⟩, ⟨120532, 120538, 1, -119569⟩, ⟨120546, 120562, 1, -119601⟩,
  ⟨120564, 120570, 1, -119601⟩, ⟨120572, 120588, 1, -119627⟩, ⟨120590, 120596, 1, -119627⟩,
  ⟨120604, 120620, 1, -119659⟩, ⟨120622, 120628, 1, -119659⟩, ⟨120630, 120646, 1, -119685⟩,
  ⟨120648, 120654, 1, -119685⟩, ⟨120662, 120678, 1, -119717⟩, ⟨120680, 120686, 1, -119717⟩,
  ⟨120688, 120704, 1, -119743⟩, ⟨120706, 120712, 1, -119743⟩, ⟨120720, 120736, 1, -119775⟩,
  ⟨120738, 120744, 1, -119775⟩, ⟨120746, 120762, 1, -119801⟩, ⟨120764, 120770, 1, -119801⟩,
  ⟨120782, 120791, 1, -120734⟩, ⟨120792, 120801, 1, -120744⟩, ⟨120802, 120811, 1, -120754⟩,
  ⟨120812, 120821, 1, -120764⟩, ⟨120822, 120831, 1, -120774⟩, ⟨122928, 122936, 1, -121856⟩,
  ⟨122940, 122950, 1, -121854⟩, ⟨122961, 122969, 1, -121889⟩, ⟨122975, 122980, 1, -121884⟩,
  ⟨127280, 127305, 1, -127183⟩, ⟨130032, 130041, 1, -129984⟩]

/-- What characters from `first` on stand for, with bars between; nothing where the block has no
form for a character. -/
structure FoldingBlock where
  first : Nat
  forms : String

/-- The blocks in ascending order. -/
def foldingBlocks : List FoldingBlock := [
  ⟨0xa0, " "⟩,
  ⟨0xa8, " ̈||a"⟩,
  ⟨0xaf, " ̄|||2|3| ́|μ||| ̧|1|o||1⁄4|1⁄2|3⁄4"⟩,
  ⟨0x130, "i̇||ij|ij"⟩,
  ⟨0x13f, "l·|l·"⟩,
  ⟨0x149, "ʼn"⟩,
  ⟨0x17f, "s"⟩,
  ⟨0x1c4, "dž|dž|dž|lj|lj|lj|nj|nj|nj"⟩,
  ⟨0x1f1, "dz|dz|dz"⟩,
  ⟨0x2b0, "h|ɦ|j|r|ɹ|ɻ|ʁ|w|y"⟩,
  ⟨0x2d8, " ̆| ̇| ̊| ̨| ̃| ̋|||ɣ|l|s|x|ʕ"⟩,
  ⟨0x340, "̀|́||̓|̈́|ι"⟩,
  ⟨0x374, "ʹ"⟩,
  ⟨0x37a, " ι"⟩,
  ⟨0x37e, ";"⟩,
  ⟨0x384, " ́| ̈́||·"⟩,
  ⟨0x3d0, "β|θ|υ|ύ|ϋ|φ|π"⟩,
  ⟨0x3f0, "κ|ρ|σ|||ε"⟩,
  ⟨0x3f9, "σ"⟩,
  ⟨0x587, "եւ"⟩,
  ⟨0x675, "اٴ|وٴ|ۇٴ|يٴ"⟩,
  ⟨0x958, "क़|ख़|ग़|ज़|ड़|ढ़|फ़|य़"⟩,
  ⟨0x9dc, "ড়|ঢ়||য়"⟩,
  ⟨0xa33, "ਲ਼|||ਸ਼"⟩,
  ⟨0xa59, "ਖ਼|ਗ਼|ਜ਼|||ਫ਼"⟩,
  ⟨0xb5c, "ଡ଼|ଢ଼"⟩,
  ⟨0xe33, "ํา"⟩,
  ⟨0xeb3, "ໍາ"⟩,
  ⟨0xedc, "ຫນ|ຫມ"⟩,
  ⟨0xf0c, "་"⟩,
  ⟨0xf43, "གྷ"⟩,
  ⟨0xf4d, "ཌྷ"⟩,
  ⟨0xf52, "དྷ"⟩,
  ⟨0xf57, "བྷ"⟩,
  ⟨0xf5c, "ཛྷ"⟩,
  ⟨0xf69, "ཀྵ"⟩,
  ⟨0xf73, "ཱི||ཱུ|ྲྀ|ྲཱྀ|ླྀ|ླཱྀ"⟩,
  ⟨0xf81, "ཱྀ"⟩,
  ⟨0xf93, "ྒྷ"⟩,
  ⟨0xf9d, "ྜྷ"⟩,
  ⟨0xfa2, "ྡྷ"⟩,
  ⟨0xfa7, "ྦྷ"⟩,
  ⟨0xfac, "ྫྷ"⟩,
  ⟨0xfb9, "ྐྵ"⟩,
  ⟨0x10fc, "ნ"⟩,
  ⟨0x1c80, "в|д|о|с|т|т|ъ|ѣ|ꙋ"⟩,
  ⟨0x1d2c, "a|æ|b||d||ǝ||h||j||l||n||o|ȣ|p|r|t|u|w|a|ɐ|ɑ|ᴂ|b|d|e|ə|ɛ|ɜ|g||k|m|ŋ|o|ɔ|ᴖ|ᴗ|p"⟩,
  ⟨0x1d57, "t|u|ᴝ|ɯ|v|ᴥ|β|γ|δ|φ|χ|i|r|u|v|β|γ|ρ|φ|χ"⟩,
  ⟨0x1d78, "н"⟩,
  ⟨0x1d9b, "ɒ|c|ɕ|ð|ɜ|f|ɟ|ɡ|ɥ|ɨ|ɩ|ɪ|ᵻ|ʝ|ɭ|ᶅ|ʟ|ɱ|ɰ|ɲ|ɳ|ɴ|ɵ|ɸ|ʂ|ʃ|ƫ|ʉ|ʊ|ᴜ|ʋ|ʌ|z|ʐ|ʑ|ʒ|θ"⟩,
  ⟨0x1e9a, "aʾ|ṡ"⟩,
  ⟨0x1f71, "ά||έ||ή||ί||ό||ύ||ώ|||ἀι|ἁι|ἂι|ἃι|ἄι|ἅι|ἆι|ἇι|ἀι|ἁι|ἂι|ἃι|ἄι|ἅι|ἆι|ἇι|ἠι|ἡι|ἢι"⟩,
  ⟨0x1f93, "ἣι|ἤι|ἥι|ἦι|ἧι|ἠι|ἡι|ἢι|ἣι|ἤι|ἥι|ἦι|ἧι|ὠι|ὡι|ὢι|ὣι|ὤι|ὥι|ὦι|ὧι|ὠι|ὡι|ὢι|ὣι|ὤι"⟩,
  ⟨0x1fad, "ὥι|ὦι|ὧι|||ὰι|αι|άι|||ᾶι"⟩,
  ⟨0x1fbb, "ά|αι| ̓|ι| ̓| ͂| ̈͂|ὴι|ηι|ήι|||ῆι||έ||ή|ηι| ̓̀| ̓́| ̓͂"⟩,
  ⟨0x1fd3, "ΐ"⟩,
  ⟨0x1fdb, "ί|| ̔̀| ̔́| ̔͂"⟩,
  ⟨0x1fe3, "ΰ"⟩,
  ⟨0x1feb, "ύ|| ̈̀| ̈́|`|||ὼι|ωι|ώι|||ῶι||ό||ώ|ωι| ́| ̔|| | | | | | | | | | | "⟩,
  ⟨0x2011, "‐"⟩,
  ⟨0x2017, " ̳"⟩,
  ⟨0x202f, " "⟩,
  ⟨0x2033, "′′|′′′||‵‵|‵‵‵"⟩,
  ⟨0x203c, "!!|| ̅"⟩,
  ⟨0x2047, "??|?!|!?"⟩,
  ⟨0x2057, "′′′′"⟩,
  ⟨0x205f, " "⟩,
  ⟨0x2070, "0|i"⟩,
  ⟨0x207a, "+|−|=|(|)|n"⟩,
  ⟨0x208a, "+|−|=|(|)||a|e|o|x|ə|h|k|l|m|n|p|s|t"⟩,
  ⟨0x20a8, "rs"⟩,
  ⟨0x2100, "a/c|a/s|c|°c||c/o|c/u|ɛ||°f|g|h|h|h|h|ħ|i|i|l|l||n|no|||p|q|r|r|r|||sm|tel|tm"⟩,
  ⟨0x2124, "z"⟩,
  ⟨0x2128, "z"⟩,
  ⟨0x212c, "b|c||e|e|f||m|o|א|ב|ג|ד|i||fax|π|γ|γ|π|∑"⟩,
  ⟨0x2145, "d|d|e|i|j"⟩,
  ⟨0x2150, "1⁄7|1⁄9|1⁄10|1⁄3|2⁄3|1⁄5|2⁄5|3⁄5|4⁄5|1⁄6|5⁄6|1⁄8|3⁄8|5⁄8|7⁄8|1⁄|i|ii|iii|iv|v"⟩,
  ⟨0x2165, "vi|vii|viii|ix|x|xi|xii|l|c|d|m|i|ii|iii|iv|v|vi|vii|viii|ix|x|xi|xii|l|c|d|m"⟩,
  ⟨0x2189, "0⁄3"⟩,
  ⟨0x222c, "∫∫|∫∫∫||∮∮|∮∮∮"⟩,
  ⟨0x2329, "〈|〉"⟩,
  ⟨0x2469, "10|11|12|13|14|15|16|17|18|19|20|(1)|(2)|(3)|(4)|(5)|(6)|(7)|(8)|(9)|(10)|(11)"⟩,
  ⟨0x247f, "(12)|(13)|(14)|(15)|(16)|(17)|(18)|(19)|(20)"⟩,
  ⟨0x249c, "(a)|(b)|(c)|(d)|(e)|(f)|(g)|(h)|(i)|(j)|(k)|(l)|(m)|(n)|(o)|(p)|(q)|(r)|(s)"⟩,
  ⟨0x24af, "(t)|(u)|(v)|(w)|(x)|(y)|(z)"⟩,
  ⟨0x24ea, "0"⟩,
  ⟨0x2a0c, "∫∫∫∫"⟩,
  ⟨0x2a74, "::=|==|==="⟩,
  ⟨0x2adc, "⫝̸"⟩,
  ⟨0x2c7c, "j|v"⟩,
  ⟨0x2d6f, "ⵡ"⟩,
  ⟨0x2e9f, "母"⟩,
  ⟨0x2ef3, "龟"⟩,
  ⟨0x2f00, "一|丨|丶|丿|乙|亅|二|亠|人|儿|入|八|冂|冖|冫|几|凵|刀|力|勹|匕|匚|匸|十|卜|卩|厂|厶|又|口|囗|土|士|夂|夊|夕|大|女|子"⟩,
  ⟨0x2f27, "宀|寸|小|尢|尸|屮|山|巛|工|己|巾|干|幺|广|廴|廾|弋|弓|彐|彡|彳|心|戈|戶|手|支|攴|文|斗|斤|方|无|日|曰|月|木|欠|止|歹"⟩,
  ⟨0x2f4e, "殳|毋|比|毛|氏|气|水|火|爪|父|爻|爿|片|牙|牛|犬|玄|玉|瓜|瓦|甘|生|用|田|疋|疒|癶|白|皮|皿|目|矛|矢|石|示|禸|禾|穴|立"⟩,
  ⟨0x2f75, "竹|米|糸|缶|网|羊|羽|老|而|耒|耳|聿|肉|臣|自|至|臼|舌|舛|舟|艮|色|艸|虍|虫|血|行|衣|襾|見|角|言|谷|豆|豕|豸|貝|赤|走"⟩,
  ⟨0x2f9c, "足|身|車|辛|辰|辵|邑|酉|釆|里|金|長|門|阜|隶|隹|雨|靑|非|面|革|韋|韭|音|頁|風|飛|食|首|香|馬|骨|高|髟|鬥|鬯|鬲|鬼|魚"⟩,
  ⟨0x2fc3, "鳥|鹵|鹿|麥|麻|黃|黍|黑|黹|黽|鼎|鼓|鼠|鼻|齊|齒|龍|龜|龠"⟩,
  ⟨0x3000, " ||."⟩,
  ⟨0x3036, "〒||十|卄|卅"⟩,
  ⟨0x309b, " ゙| ゚|||より"⟩,
  ⟨0x30ff, "コト"⟩,
  ⟨0x3131, "ᄀ|ᄁ|ᆪ|ᄂ|ᆬ|ᆭ|ᄃ|ᄄ|ᄅ"⟩,
  ⟨0x3140, "ᄚ|ᄆ|ᄇ|ᄈ|ᄡ"⟩,
  ⟨0x3165, "ᄔ|ᄕ|ᇇ|ᇈ|ᇌ|ᇎ|ᇓ|ᇗ|ᇙ|ᄜ|ᇝ|ᇟ|ᄝ|ᄞ|ᄠ|ᄢ|ᄣ|ᄧ|ᄩ"⟩,
  ⟨0x317d, "ᄲ|ᄶ|ᅀ|ᅇ|ᅌ|ᇱ|ᇲ|ᅗ|ᅘ|ᅙ|ᆄ|ᆅ|ᆈ|ᆑ|ᆒ|ᆔ|ᆞ|ᆡ"⟩,
  ⟨0x3192, "一|二|三|四|上|中|下|甲|乙|丙|丁|天|地|人"⟩,
  ⟨0x3200, "(ᄀ)|(ᄂ)|(ᄃ)|(ᄅ)|(ᄆ)|(ᄇ)|(ᄉ)|(ᄋ)|(ᄌ)|(ᄎ)|(ᄏ)|(ᄐ)|(ᄑ)|(ᄒ)|(가)|(나)|(다)|(라)|(마)"⟩,
  ⟨0x3213, "(바)|(사)|(아)|(자)|(차)|(카)|(타)|(파)|(하)|(주)|(오전)|(오후)||(一)|(二)|(三)|(四)|(五)|(六)|(七)"⟩,
  ⟨0x3227, "(八)|(九)|(十)|(月)|(火)|(水)|(木)|(金)|(土)|(日)|(株)|(有)|(社)|(名)|(特)|(財)|(祝)|(労)|(代)"⟩,
  ⟨0x323a, "(呼)|(学)|(監)|(企)|(資)|(協)|(祭)|(休)|(自)|(至)|問|幼|文|箏"⟩,
  ⟨0x3250, "pte|21|22|23|24|25|26|27|28|29|30|31|32|33|34|35|ᄀ|ᄂ|ᄃ|ᄅ|ᄆ|ᄇ|ᄉ|ᄋ|ᄌ"⟩,
  ⟨0x326e, "가|나|다|라|마|바|사|아|자|차|카|타|파|하|참고|주의|우||一|二|三|四|五|六|七|八|九|十|月|火|水|木|金|土|日|株|有|社|名"⟩,
  ⟨0x3295, "特|財|祝|労|秘|男|女|適|優|印|注|項|休|写|正|上|中|下|左|右|医|宗|学|監|企|資|協|夜|36|37|38|39|40|41|42"⟩,
  ⟨0x32b8, "43|44|45|46|47|48|49|50|1月|2月|3月|4月|5月|6月|7月|8月|9月|10月|11月|12月|hg|erg|ev|ltd|ア"⟩,
  ⟨0x32d1, "イ|ウ|エ|オ|カ|キ|ク|ケ|コ|サ|シ|ス|セ|ソ|タ|チ|ツ|テ|ト"⟩,
  ⟨0x32ea, "ヒ|フ|ヘ|ホ"⟩,
  ⟨0x32f3, "ヤ|ユ"⟩,
  ⟨0x32fb, "ワ|ヰ|ヱ|ヲ|令和|アパート|アルファ|アンペア|アール|イニング|インチ|ウォン|エスクード|エーカー|オンス|オーム|カイリ|カラット|カロリー"⟩,
  ⟨0x330e, "ガロン|ガンマ|ギガ|ギニー|キュリー|ギルダー|キロ|キログラム|キロメートル|キロワット|グラム|グラムトン|クルゼイロ|クローネ|ケース|コルナ"⟩,
  ⟨0x331e, "コーポ|サイクル|サンチーム|シリング|センチ|セント|ダース|デシ|ドル|トン|ナノ|ノット|ハイツ|パーセント|パーツ|バーレル|ピアストル|ピクル"⟩,
  ⟨0x3330, "ピコ|ビル|ファラッド|フィート|ブッシェル|フラン|ヘクタール|ペソ|ペニヒ|ヘルツ|ペンス|ページ|ベータ|ポイント|ボルト|ホン|ポンド|ホール"⟩,
  ⟨0x3342, "ホーン|マイクロ|マイル|マッハ|マルク|マンション|ミクロン|ミリ|ミリバール|メガ|メガトン|メートル|ヤード|ヤール|ユアン|リットル|リラ|ルピー"⟩,
  ⟨0x3354, "ルーブル|レム|レントゲン|ワット|0点|1点|2点|3点|4点|5点|6点|7点|8点|9点|10点|11点|12点|13点|14点|15点|16点"⟩,
  ⟨0x3369, "17点|18点|19点|20点|21点|22点|23点|24点|hpa|da|au|bar|ov|pc|dm|dm2|dm3|iu|平成|昭和|大正|明治"⟩,
  ⟨0x337f, "株式会社|pa|na|μa|ma|ka|kb|mb|gb|cal|kcal|pf|nf|μf|μg|mg|kg|hz|khz|mhz|ghz|thz|μl"⟩,
  ⟨0x3396, "ml|dl|kl|fm|nm|μm|mm|cm|km|mm2|cm2|m2|km2|mm3|cm3|m3|km3|m∕s|m∕s2|pa|kpa|mpa"⟩,
  ⟨0x33ac, "gpa|rad|rad∕s|rad∕s2|ps|ns|μs|ms|pv|nv|μv|mv|kv|mv|pw|nw|μw|mw|kw|mw|kω|mω||bq"⟩,
  ⟨0x33c4, "cc|cd|c∕kg||db|gy|ha|hp|in|kk|km|kt|lm|ln|log|lx|mb|mil|mol|ph||ppm|pr|sr|sv"⟩,
  ⟨0x33dd, "wb|v∕m|a∕m|1日|2日|3日|4日|5日|6日|7日|8日|9日|10日|11日|12日|13日|14日|15日|16日|17日|18日|19日"⟩,
  ⟨0x33f3, "20日|21日|22日|23日|24日|25日|26日|27日|28日|29日|30日|31日|gal"⟩,
  ⟨0xa69c, "ъ|ь"⟩,
  ⟨0xa770, "ꝯ"⟩,
  ⟨0xa7f1, "s|c|f|q"⟩,
  ⟨0xa7f8, "ħ|œ"⟩,
  ⟨0xab5c, "ꜧ|ꬷ|ɫ|ꭒ"⟩,
  ⟨0xab69, "ʍ"⟩,
  ⟨0xf900, "豈|更|車|賈|滑|串|句|龜|龜|契|金|喇|奈|懶|癩|羅|蘿|螺|裸|邏|樂|洛|烙|珞|落|酪|駱|亂|卵|欄|爛|蘭|鸞|嵐|濫|藍|襤|拉|臘"⟩,
  ⟨0xf927, "蠟|廊|朗|浪|狼|郎|來|冷|勞|擄|櫓|爐|盧|老|蘆|虜|路|露|魯|鷺|碌|祿|綠|菉|錄|鹿|論|壟|弄|籠|聾|牢|磊|賂|雷|壘|屢|樓|淚"⟩,
  ⟨0xf94e, "漏|累|縷|陋|勒|肋|凜|凌|稜|綾|菱|陵|讀|拏|樂|諾|丹|寧|怒|率|異|北|磻|便|復|不|泌|數|索|參|塞|省|葉|說|殺|辰|沈|拾|若"⟩,
  ⟨0xf975, "掠|略|亮|兩|凉|梁|糧|良|諒|量|勵|呂|女|廬|旅|濾|礪|閭|驪|麗|黎|力|曆|歷|轢|年|憐|戀|撚|漣|煉|璉|秊|練|聯|輦|蓮|連|鍊"⟩,
  ⟨0xf99c, "列|劣|咽|烈|裂|說|廉|念|捻|殮|簾|獵|令|囹|寧|嶺|怜|玲|瑩|羚|聆|鈴|零|靈|領|例|禮|醴|隸|惡|了|僚|寮|尿|料|樂|燎|療|蓼"⟩,
  ⟨0xf9c3, "遼|龍|暈|阮|劉|杻|柳|流|溜|琉|留|硫|紐|類|六|戮|陸|倫|崙|淪|輪|律|慄|栗|率|隆|利|吏|履|易|李|梨|泥|理|痢|罹|裏|裡|里"⟩,
  ⟨0xf9ea, "離|匿|溺|吝|燐|璘|藺|隣|鱗|麟|林|淋|臨|立|笠|粒|狀|炙|識|什|茶|刺|切|度|拓|糖|宅|洞|暴|輻|行|降|見|廓|兀|嗀|||塚||晴"⟩,
  ⟨0xfa15, "凞|猪|益|礼|神|祥|福|靖|精|羽||蘒||諸|||逸|都"⟩,
  ⟨0xfa2a, "飯|飼|館|鶴|郞|隷|侮|僧|免|勉|勤|卑|喝|嘆|器|塀|墨|層|屮|悔|慨|憎|懲|敏|既|暑|梅|海|渚|漢|煮|爫|琢|碑|社|祉|祈|祐|祖"⟩,
  ⟨0xfa51, "祝|禍|禎|穀|突|節|練|縉|繁|署|者|臭|艹|艹|著|褐|視|謁|謹|賓|贈|辶|逸|難|響|頻|恵|𤋮|舘|||並|况|全|侀|充|冀|勇|勺|喝"⟩,
  ⟨0xfa79, "啕|喙|嗢|塚|墳|奄|奔|婢|嬨|廒|廙|彩|徭|惘|慎|愈|憎|慠|懲|戴|揄|搜|摒|敖|晴|朗|望|杖|歹|殺|流|滛|滋|漢|瀞|煮|瞧|爵|犯"⟩,
  ⟨0xfaa0, "猪|瑱|甆|画|瘝|瘟|益|盛|直|睊|着|磌|窱|節|类|絛|練|缾|者|荒|華|蝹|襁|覆|視|調|諸|請|謁|諾|諭|謹|變|贈|輸|遲|醙|鉶|陼"⟩,
  ⟨0xfac7, "難|靖|韛|響|頋|頻|鬒|龜|𢡊|𢡄|𣏕|㮝|䀘|䀹|𥉉|𥳐|𧻓|齃|龎"⟩,
  ⟨0xfb00, "ff|fi|fl|ffi|ffl|st|st"⟩,
  ⟨0xfb13, "մն|մե|մի|վն|մխ"⟩,
  ⟨0xfb1d, "יִ||ײַ|ע|א|ד|ה|כ|ל|ם|ר|ת|+|שׁ|שׂ|שּׁ|שּׂ|אַ|אָ|אּ|בּ|גּ|דּ|הּ|וּ|זּ||טּ|יּ|ךּ"⟩,
  ⟨0xfb3b, "כּ|לּ||מּ||נּ|סּ||ףּ|פּ||צּ|קּ|רּ|שּ|תּ|וֹ|בֿ|כֿ|פֿ|אל|ٱ|ٱ|ٻ|ٻ|ٻ|ٻ|پ|پ|پ|پ|ڀ|ڀ"⟩,
  ⟨0xfb5c, "ڀ|ڀ|ٺ|ٺ|ٺ|ٺ|ٿ|ٿ|ٿ|ٿ|ٹ|ٹ|ٹ|ٹ|ڤ|ڤ|ڤ|ڤ|ڦ|ڦ|ڦ|ڦ|ڄ|ڄ|ڄ|ڄ|ڃ|ڃ|ڃ|ڃ|چ|چ|چ|چ|ڇ|ڇ|ڇ|ڇ|ڍ"⟩,
  ⟨0xfb83, "ڍ|ڌ|ڌ|ڎ|ڎ|ڈ|ڈ|ژ|ژ|ڑ|ڑ|ک|ک|ک|ک|گ|گ|گ|گ|ڳ|ڳ|ڳ|ڳ|ڱ|ڱ|ڱ|ڱ|ں|ں|ڻ|ڻ|ڻ|ڻ|ۀ|ۀ|ہ|ہ|ہ|ہ"⟩,
  ⟨0xfbaa, "ھ|ھ|ھ|ھ|ے|ے|ۓ|ۓ"⟩,
  ⟨0xfbd3, "ڭ|ڭ|ڭ|ڭ|ۇ|ۇ|ۆ|ۆ|ۈ|ۈ|ۇٴ|ۋ|ۋ|ۅ|ۅ|ۉ|ۉ|ې|ې|ې|ې|ى|ى|ئا|ئا|ئە|ئە|ئو|ئو|ئۇ|ئۇ|ئۆ|ئۆ"⟩,
  ⟨0xfbf4, "ئۈ|ئۈ|ئې|ئې|ئې|ئى|ئى|ئى|ی|ی|ی|ی|ئج|ئح|ئم|ئى|ئي|بج|بح|بخ|بم|بى|بي|تج|تح|تخ|تم"⟩,
  ⟨0xfc0f, "تى|تي|ثج|ثم|ثى|ثي|جح|جم|حج|حم|خج|خح|خم|سج|سح|سخ|سم|صح|صم|ضج|ضح|ضخ|ضم|طح|طم|ظم"⟩,
  ⟨0xfc29, "عج|عم|غج|غم|فج|فح|فخ|فم|فى|في|قح|قم|قى|قي|كا|كج|كح|كخ|كل|كم|كى|كي|لج|لح|لخ|لم"⟩,
  ⟨0xfc43, "لى|لي|مج|مح|مخ|مم|مى|مي|نج|نح|نخ|نم|نى|ني|هج|هم|هى|هي|يج|يح|يخ|يم|يى|يي|ذٰ|رٰ"⟩,
  ⟨0xfc5d, "ىٰ| ٌّ| ٍّ| َّ| ُّ| ِّ| ّٰ|ئر|ئز|ئم|ئن|ئى|ئي|بر|بز|بم|بن|بى|بي|تر|تز|تم|تن|تى"⟩,
  ⟨0xfc75, "تي|ثر|ثز|ثم|ثن|ثى|ثي|فى|في|قى|قي|كا|كل|كم|كى|كي|لم|لى|لي|ما|مم|نر|نز|نم|نن|نى"⟩,
  ⟨0xfc8f, "ني|ىٰ|ير|يز|يم|ين|يى|يي|ئج|ئح|ئخ|ئم|ئه|بج|بح|بخ|بم|به|تج|تح|تخ|تم|ته|ثم|جح|جم"⟩,
  ⟨0xfca9, "حج|حم|خج|خم|سج|سح|سخ|سم|صح|صخ|صم|ضج|ضح|ضخ|ضم|طح|ظم|عج|عم|غج|غم|فج|فح|فخ|فم|قح"⟩,
  ⟨0xfcc3, "قم|كج|كح|كخ|كل|كم|لج|لح|لخ|لم|له|مج|مح|مخ|مم|نج|نح|نخ|نم|نه|هج|هم|هٰ|يج|يح|يخ"⟩,
  ⟨0xfcdd, "يم|يه|ئم|ئه|بم|به|تم|ته|ثم|ثه|سم|سه|شم|شه|كل|كم|لم|نم|نه|يم|يه|ـَّ|ـُّ|ـِّ|طى"⟩,
  ⟨0xfcf6, "طي|عى|عي|غى|غي|سى|سي|شى|شي|حى|حي|جى|جي|خى|خي|صى|صي|ضى|ضي|شج|شح|شخ|شم|شر|سر|صر"⟩,
  ⟨0xfd10, "ضر|طى|طي|عى|عي|غى|غي|سى|سي|شى|شي|حى|حي|جى|جي|خى|خي|صى|صي|ضى|ضي|شج|شح|شخ|شم|شر"⟩,
  ⟨0xfd2a, "سر|صر|ضر|شج|شح|شخ|شم|سه|شه|طم|سج|سح|سخ|شج|شح|شخ|طم|ظم|اً|اً"⟩,
  ⟨0xfd50, "تجم|تحج|تحج|تحم|تخم|تمج|تمح|تمخ|جمح|جمح|حمي|حمى|سحج|سجح|سجى|سمح|سمح|سمج|سمم"⟩,
  ⟨0xfd63, "سمم|صحح|صحح|صمم|شحم|شحم|شجي|شمخ|شمخ|شمم|شمم|ضحى|ضخم|ضخم|طمح|طمح|طمم|طمي|عجم"⟩,
  ⟨0xfd76, "عمم|عمم|عمى|غمم|غمي|غمى|فخم|فخم|قمح|قمم|لحم|لحي|لحى|لجج|لجج|لخم|لخم|لمح|لمح"⟩,
  ⟨0xfd89, "محج|محم|محي|مجح|مجم|مخج|مخم|||مجخ|همج|همم|نحم|نحى|نجم|نجم|نجى|نمي|نمى|يمم|يمم"⟩,
  ⟨0xfd9e, "بخي|تجي|تجى|تخي|تخى|تمي|تمى|جمي|جحى|جمى|سخى|صحي|شحي|ضحي|لجي|لمي|يحي|يجي|يمي"⟩,
  ⟨0xfdb1, "ممي|قمي|نحي|قمح|لحم|عمي|كمي|نجح|مخي|لجم|كمم|لجم|نجح|جحي|حجي|مجي|فمي|بحي|كمم"⟩,
  ⟨0xfdc4, "عجم|صمم|سخي|نجي"⟩,
  ⟨0xfdf0, "صلے|قلے|الله|اكبر|محمد|صلعم|رسول|عليه|وسلم|صلى|صلى الله عليه وسلم|جل جلاله"⟩,
  ⟨0xfdfc, "ریال"⟩,
  ⟨0xfe10, ",|、||:|;|!|?|〖|〗"⟩,
  ⟨0xfe31, "—|–|_|_|(|)|\x7b|\x7d|〔|〕|【|】|《|》|〈|〉|「|」|『|』|||[|]| ̅| ̅| ̅| ̅|_|_|_|,|、|||;|:|?|!"⟩,
  ⟨0xfe58, "—|(|)|\x7b|\x7d|〔|〕|#|&|*|+|-|<|>|=||\\|$|%|@"⟩,
  ⟨0xfe70, " ً|ـً| ٌ|| ٍ|| َ|ـَ| ُ|ـُ| ِ|ـِ| ّ|ـّ| ْ|ـْ|ء|آ|آ|أ|أ|ؤ|ؤ|إ|إ|ئ|ئ|ئ|ئ|ا|ا|ب|ب"⟩,
  ⟨0xfe91, "ب|ب|ة|ة|ت|ت|ت|ت|ث|ث|ث|ث|ج|ج|ج|ج|ح|ح|ح|ح|خ|خ|خ|خ|د|د|ذ|ذ|ر|ر|ز|ز|س|س|س|س|ش|ش|ش"⟩,
  ⟨0xfeb8, "ش|ص|ص|ص|ص|ض|ض|ض|ض|ط|ط|ط|ط|ظ|ظ|ظ|ظ|ع|ع|ع|ع|غ|غ|غ|غ|ف|ف|ف|ف|ق|ق|ق|ق|ك|ك|ك|ك|ل|ل"⟩,
  ⟨0xfedf, "ل|ل|م|م|م|م|ن|ن|ن|ن|ه|ه|ه|ه|و|و|ى|ى|ي|ي|ي|ي|لآ|لآ|لأ|لأ|لإ|لإ|لا|لا"⟩,
  ⟨0xff5f, "⦅|⦆|.|「|」|、|・|ヲ|ァ|ィ|ゥ|ェ|ォ|ャ|ュ|ョ|ッ|ー|ア|イ|ウ|エ|オ|カ|キ|ク|ケ|コ|サ|シ|ス|セ|ソ|タ|チ|ツ|テ|ト"⟩,
  ⟨0xff8b, "ヒ|フ|ヘ|ホ"⟩,
  ⟨0xff94, "ヤ|ユ"⟩,
  ⟨0xff9c, "ワ|ン|゙|゚||ᄀ|ᄁ|ᆪ|ᄂ|ᆬ|ᆭ|ᄃ|ᄄ|ᄅ"⟩,
  ⟨0xffb0, "ᄚ|ᄆ|ᄇ|ᄈ|ᄡ"⟩,
  ⟨0xffda, "ᅳ|ᅴ|ᅵ"⟩,
  ⟨0xffe0, "¢|£|¬| ̄|¦|¥|₩||│|←|↑|→|↓|■|○"⟩,
  ⟨0x10781, "ː|ˑ|æ|ʙ|ɓ||ʣ|ꭦ|ʥ|ʤ|ɖ|ɗ|ᶑ|ɘ|ɞ|ʩ|ɤ|ɢ|ɠ|ʛ|ħ|ʜ|ɧ|ʄ|ʪ|ʫ|ɬ|𝼄|ꞎ|ɮ|𝼅|ʎ|𝼆|ø|ɶ|ɷ|q|ɺ|𝼈|ɽ"⟩,
  ⟨0x107a9, "ɾ|ʀ|ʨ|ʦ|ꭧ|ʧ|ʈ|ⱱ||ʏ|ʡ|ʢ|ʘ|ǀ|ǁ|ǂ|𝼊|𝼞"⟩,
  ⟨0x1d15e, "𝅗𝅥|𝅘𝅥|𝅘𝅥𝅮|𝅘𝅥𝅯|𝅘𝅥𝅰|𝅘𝅥𝅱|𝅘𝅥𝅲"⟩,
  ⟨0x1d1bb, "𝆹𝅥|𝆺𝅥|𝆹𝅥𝅮|𝆺𝅥𝅮|𝆹𝅥𝅯|𝆺𝅥𝅯"⟩,
  ⟨0x1d44f, "b||d||f"⟩,
  ⟨0x1d49c, "a||c|d|||g|||j|k|||n||p"⟩,
  ⟨0x1d4af, "t||v||x||z|a||c"⟩,
  ⟨0x1d4be, "i||k||m"⟩,
  ⟨0x1d504, "a|b||d|e|f|g"⟩,
  ⟨0x1d538, "a|b||d||f"⟩,
  ⟨0x1d541, "j||l"⟩,
  ⟨0x1d6a4, "ı|ȷ"⟩,
  ⟨0x1d6b9, "θ"⟩,
  ⟨0x1d6c1, "∇"⟩,
  ⟨0x1d6d3, "σ"⟩,
  ⟨0x1d6db, "∂|ε|θ|κ|φ|ρ|π"⟩,
  ⟨0x1d6f3, "θ"⟩,
  ⟨0x1d6fb, "∇"⟩,
  ⟨0x1d70d, "σ"⟩,
  ⟨0x1d715, "∂|ε|θ|κ|φ|ρ|π"⟩,
  ⟨0x1d72d, "θ"⟩,
  ⟨0x1d735, "∇"⟩,
  ⟨0x1d747, "σ"⟩,
  ⟨0x1d74f, "∂|ε|θ|κ|φ|ρ|π"⟩,
  ⟨0x1d767, "θ"⟩,
  ⟨0x1d76f, "∇"⟩,
  ⟨0x1d781, "σ"⟩,
  ⟨0x1d789, "∂|ε|θ|κ|φ|ρ|π"⟩,
  ⟨0x1d7a1, "θ"⟩,
  ⟨0x1d7a9, "∇"⟩,
  ⟨0x1d7bb, "σ"⟩,
  ⟨0x1d7c3, "∂|ε|θ|κ|φ|ρ|π|ϝ|ϝ"⟩,
  ⟨0x1e039, "к|л|м"⟩,
  ⟨0x1e047, "ы|э|ю|ꚉ|ә|і|ј|ө|ү|ӏ"⟩,
  ⟨0x1e05a, "к|л|о|п|с"⟩,
  ⟨0x1e065, "ъ|ы|ґ|і|ѕ|џ|ҫ|ꙑ|ұ"⟩,
  ⟨0x1ee00, "ا|ب|ج|د||و|ز|ح|ط|ي|ك|ل|م|ن|س|ع|ف|ص|ق|ر|ش|ت|ث|خ|ذ|ض|ظ|غ|ٮ|ں|ڡ|ٯ||ب|ج||ه|||ح||ي"⟩,
  ⟨0x1ee2a, "ك|ل|م|ن|س|ع|ف|ص|ق||ش|ت|ث|خ||ض||غ"⟩,
  ⟨0x1ee42, "ج"⟩,
  ⟨0x1ee47, "ح||ي||ل||ن|س|ع||ص|ق||ش|||خ||ض||غ||ں||ٯ||ب|ج||ه|||ح|ط|ي|ك||م|ن|س|ع|ف|ص|ق||ش|ت|ث"⟩,
  ⟨0x1ee77, "خ||ض|ظ|غ|ٮ||ڡ||ا|ب|ج|د|ه|و|ز|ح|ط|ي||ل|م|ن|س|ع|ف|ص|ق|ر|ش|ت|ث|خ|ذ|ض|ظ|غ"⟩,
  ⟨0x1eea1, "ب|ج|د||و|ز|ح|ط|ي||ل|م|ن|س|ع|ف|ص|ق|ر|ش|ت|ث|خ|ذ|ض|ظ|غ"⟩,
  ⟨0x1f101, "0,|1,|2,|3,|4,|5,|6,|7,|8,|9,"⟩,
  ⟨0x1f110, "(a)|(b)|(c)|(d)|(e)|(f)|(g)|(h)|(i)|(j)|(k)|(l)|(m)|(n)|(o)|(p)|(q)|(r)|(s)"⟩,
  ⟨0x1f123, "(t)|(u)|(v)|(w)|(x)|(y)|(z)|〔s〕|c|r|cd|wz"⟩,
  ⟨0x1f14a, "hv|mv|sd|ss|ppv|wc"⟩,
  ⟨0x1f16a, "mc|md|mr"⟩,
  ⟨0x1f190, "dj"⟩,
  ⟨0x1f200, "ほか|ココ|サ"⟩,
  ⟨0x1f210, "手|字|双|デ|二|多|解|天|交|映|無|料|前|後|再|新|初|終|生|販|声|吹|演|投|捕|一|三|遊|左|中|右|指|走|打|禁|空|合|満|有"⟩,
  ⟨0x1f237, "月|申|割|営|配"⟩,
  ⟨0x1f240, "〔本〕|〔三〕|〔二〕|〔安〕|〔点〕|〔打〕|〔盗〕|〔勝〕|〔敗〕"⟩,
  ⟨0x1f250, "得|可"⟩,
  ⟨0x2f800, "丽|丸|乁|𠄢|你|侮|侻|倂|偺|備|僧|像|㒞|𠘺|免|兔|兤|具|𠔜|㒹|內|再|𠕋|冗|冤|仌|冬|况|𩇟|凵|刃|㓟|刻|剆|割|剷|㔕|勇|勉"⟩,
  ⟨0x2f827, "勤|勺|包|匆|北|卉|卑|博|即|卽|卿|卿|卿|𠨬|灰|及|叟|𠭣|叫|叱|吆|咞|吸|呈|周|咢|哶|唐|啓|啣|善|善|喙|喫|喳|嗂|圖|嘆|圗"⟩,
  ⟨0x2f84e, "噑|噴|切|壮|城|埴|堍|型|堲|報|墬|𡓤|売|壷|夆|多|夢|奢|𡚨|𡛪|姬|娛|娧|姘|婦|㛮|㛼|嬈|嬾|嬾|𡧈|寃|寘|寧|寳|𡬘|寿|将|当"⟩,
  ⟨0x2f875, "尢|㞁|屠|屮|峀|岍|𡷤|嵃|𡷦|嵮|嵫|嵼|巡|巢|㠯|巽|帨|帽|幩|㡢|𢆃|㡼|庰|庳|庶|廊|𪎒|廾|𢌱|𢌱|舁|弢|弢|㣇|𣊸|𦇚|形|彫|㣣"⟩,
  ⟨0x2f89c, "徚|忍|志|忹|悁|㤺|㤜|悔|𢛔|惇|慈|慌|慎|慌|慺|憎|憲|憤|憯|懞|懲|懶|成|戛|扝|抱|拔|捐|𢬌|挽|拼|捨|掃|揤|𢯱|搢|揅|掩|㨮"⟩,
  ⟨0x2f8c3, "摩|摾|撝|摷|㩬|敏|敬|𣀊|旣|書|晉|㬙|暑|㬈|㫤|冒|冕|最|暜|肭|䏙|朗|望|朡|杞|杓|𣏃|㭉|柺|枅|桒|梅|𣑭|梎|栟|椔|㮝|楂|榣"⟩,
  ⟨0x2f8ea, "槪|檨|𣚣|櫛|㰘|次|𣢧|歔|㱎|歲|殟|殺|殻|𣪍|𡴋|𣫺|汎|𣲼|沿|泍|汧|洖|派|海|流|浩|浸|涅|𣴞|洴|港|湮|㴳|滋|滇|𣻑|淹|潮|𣽞"⟩,
  ⟨0x2f911, "𣾎|濆|瀹|瀞|瀛|㶖|灊|災|灷|炭|𠔥|煅|𤉣|熜|𤎫|爨|爵|牐|𤘈|犀|犕|𤜵|𤠔|獺|王|㺬|玥|㺸|㺸|瑇|瑜|瑱|璅|瓊|㼛|甤|𤰶|甾|𤲒"⟩,
  ⟨0x2f938, "異|𢆟|瘐|𤾡|𤾸|𥁄|㿼|䀈|直|𥃳|𥃲|𥄙|𥄳|眞|真|真|睊|䀹|瞋|䁆|䂖|𥐝|硎|碌|磌|䃣|𥘦|祖|𥚚|𥛅|福|秫|䄯|穀|穊|穏|𥥼|𥪧|𥪧"⟩,
  ⟨0x2f95f, "竮|䈂|𥮫|篆|築|䈧|𥲀|糒|䊠|糨|糣|紀|𥾆|絣|䌁|緇|縂|繅|䌴|𦈨|𦉇|䍙|𦋙|罺|𦌾|羕|翺|者|𦓚|𦔣|聠|𦖨|聰|𣍟|䏕|育|脃|䐋|脾"⟩,
  ⟨0x2f986, "媵|𦞧|𦞵|𣎓|𣎜|舁|舄|辞|䑫|芑|芋|芝|劳|花|芳|芽|苦|𦬼|若|茝|荣|莭|茣|莽|菧|著|荓|菊|菌|菜|𦰶|𦵫|𦳕|䔫|蓱|蓳|蔖|𧏊|蕤"⟩,
  ⟨0x2f9ad, "𦼬|䕝|䕡|𦾱|𧃒|䕫|虐|虜|虧|虩|蚩|蚈|蜎|蛢|蝹|蜨|蝫|螆|䗗|蟡|蠁|䗹|衠|衣|𧙧|裗|裞|䘵|裺|㒻|𧢮|𧥦|䚾|䛇|誠|諭|變|豕|𧲨"⟩,
  ⟨0x2f9d4, "貫|賁|贛|起|𧼯|𠠄|跋|趼|跰|𠣞|軔|輸|𨗒|𨗭|邔|郱|鄑|𨜮|鄛|鈸|鋗|鋘|鉼|鏹|鐕|𨯺|開|䦕|閷|𨵷|䧦|雃|嶲|霣|𩅅|𩈚|䩮|䩶|韠"⟩,
  ⟨0x2f9fb, "𩐊|䪲|𩒖|頋|頋|頩|𩖶|飢|䬳|餩|馧|駂|駾|䯎|𩬰|鬒|鱀|鳽|䳎|䳭|鵧|𪃎|䳸|𪄅|𪈎|𪊑|麻|䵖|黹|黾|鼅|鼏|鼖|鼻|𪘀"⟩]

/-- Characters that have no meaning in a name. -/
def meaningless : CharSet := ⟨[
  173, 174, 847, 848, 4447, 4449, 6068, 6070, 6155, 6160, 8203, 8204, 8288, 8293, 8298, 8304,
  12644, 12645, 65024, 65040, 65279, 65280, 65440, 65441, 113824, 113828, 119155, 119163, 917760,
  918000]⟩

/-- Characters with a glyph that no name holds. -/
def refused : CharSet := ⟨[
  8228, 8231, 9352, 9372, 12272, 12288, 12783, 12784, 13250, 13251, 13255, 13256, 13272, 13273,
  65042, 65043, 65049, 65050, 65072, 65073, 65106, 65107, 65532, 65534, 127232, 127233]⟩

end Domain

end LoadHarness
