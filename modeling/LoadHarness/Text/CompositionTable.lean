/-!
# Characters made of two

Many letters with a mark are also characters of their own. The table tells for each mark, or
vowel sign, which characters it combines with and what they become.
-/

namespace LoadHarness

/-- A second part, the first parts it combines with, and what these become in the same order. -/
structure CombiningPart where
  code : Nat
  bases : String
  wholes : String

/-- All second parts in ascending order; one with many first parts has several entries. -/
def combiningParts : List CombiningPart := [
  ⟨0x300, "aeinouwyâêôüăēōơưαεηιουωϊϋеиἀἁἐἑἠἡἰἱ", "àèìǹòùẁỳầềồǜằḕṑờừὰὲὴὶὸὺὼῒῢѐѝἂἃἒἓἢἣἲἳ"⟩,
  ⟨0x300, "ὀὁὐὑὠὡ", "ὂὃὒὓὢὣ"⟩,
  ⟨0x301, "acegiklmnoprsuwyzâåæçêïôõøüăēōũơưαεη", "áćéǵíḱĺḿńóṕŕśúẃýźấǻǽḉếḯốṍǿǘắḗṓṹớứάέή"⟩,
  ⟨0x301, "ιουωϊϋгкἀἁἐἑἠἡἰἱὀὁὐὑὠὡ", "ίόύώΐΰѓќἄἅἔἕἤἥἴἵὄὅὔὕὤὥ"⟩,
  ⟨0x302, "aceghijosuwyzạẹọ", "âĉêĝĥîĵôŝûŵŷẑậệộ"⟩,
  ⟨0x303, "aeinouvyâêôăơư", "ãẽĩñõũṽỹẫễỗẵỡữ"⟩,
  ⟨0x304, "aegiouyäæõöüǫȧȯαιυиуḷṛ", "āēḡīōūȳǟǣȭȫǖǭǡȱᾱῑῡӣӯḹṝ"⟩,
  ⟨0x306, "aegiouȩαιυаежиуạ", "ăĕğĭŏŭḝᾰῐῠӑӗӂйўặ"⟩,
  ⟨0x307, "abcdefghmnoprstwxyzśšṣ𐗒𐗚", "ȧḃċḋėḟġḣṁṅȯṗṙṡṫẇẋẏżṥṧṩ𐗉𐗤"⟩,
  ⟨0x308, "aehiotuwxyõūιυаежзиоучыэіәө", "äëḧïöẗüẅẍÿṏṻϊϋӓёӝӟӥӧӱӵӹӭїӛӫ"⟩,
  ⟨0x309, "aeiouyâêôăơư", "ảẻỉỏủỷẩểổẳởử"⟩,
  ⟨0x30a, "auwy", "åůẘẙ"⟩,
  ⟨0x30b, "ouу", "őűӳ"⟩,
  ⟨0x30c, "acdeghijklnorstuzüʒ", "ǎčďěǧȟǐǰǩľňǒřšťǔžǚǯ"⟩,
  ⟨0x30f, "aeioruѵ", "ȁȅȉȍȑȕѷ"⟩,
  ⟨0x311, "aeioru", "ȃȇȋȏȓȗ"⟩,
  ⟨0x313, "αεηιορυω", "ἀἐἠἰὀῤὐὠ"⟩,
  ⟨0x314, "αεηιορυω", "ἁἑἡἱὁῥὑὡ"⟩,
  ⟨0x31b, "ou", "ơư"⟩,
  ⟨0x323, "abdehiklmnorstuvwyzơư", "ạḅḍẹḥịḳḷṃṇọṛṣṭụṿẉỵẓợự"⟩,
  ⟨0x324, "u", "ṳ"⟩,
  ⟨0x325, "a", "ḁ"⟩,
  ⟨0x326, "st", "șț"⟩,
  ⟨0x327, "cdeghklnrst", "çḑȩģḩķļņŗşţ"⟩,
  ⟨0x328, "aeiou", "ąęįǫų"⟩,
  ⟨0x32d, "delntu", "ḓḙḽṋṱṷ"⟩,
  ⟨0x32e, "h", "ḫ"⟩,
  ⟨0x330, "eiu", "ḛḭṵ"⟩,
  ⟨0x331, "bdhklnrtz", "ḇḏẖḵḻṉṟṯẕ"⟩,
  ⟨0x338, "<=>←→↔⇐⇒⇔∃∈∋∣∥∼≃≅≈≍≡≤≥≲≳≶≷≺≻≼≽⊂⊃⊆⊇⊑⊒", "≮≠≯↚↛↮⇍⇏⇎∄∉∌∤∦≁≄≇≉≭≢≰≱≴≵≸≹⊀⊁⋠⋡⊄⊅⊈⊉⋢⋣"⟩,
  ⟨0x338, "⊢⊨⊩⊫⊲⊳⊴⊵", "⊬⊭⊮⊯⋪⋫⋬⋭"⟩,
  ⟨0x342, "αηιυωϊϋἀἁἠἡἰἱὐὑὠὡ", "ᾶῆῖῦῶῗῧἆἇἦἧἶἷὖὗὦὧ"⟩,
  ⟨0x653, "ا", "آ"⟩,
  ⟨0x654, "اويہےە", "أؤئۂۓۀ"⟩,
  ⟨0x655, "ا", "إ"⟩,
  ⟨0x93c, "नरळ", "ऩऱऴ"⟩,
  ⟨0x9be, "ে", "ো"⟩,
  ⟨0x9d7, "ে", "ৌ"⟩,
  ⟨0xb3e, "େ", "ୋ"⟩,
  ⟨0xb56, "େ", "ୈ"⟩,
  ⟨0xb57, "େ", "ୌ"⟩,
  ⟨0xbbe, "ெே", "ொோ"⟩,
  ⟨0xbd7, "ஒெ", "ஔௌ"⟩,
  ⟨0xc56, "ె", "ై"⟩,
  ⟨0xcc2, "ೆ", "ೊ"⟩,
  ⟨0xcd5, "ಿೆೊ", "ೀೇೋ"⟩,
  ⟨0xcd6, "ೆ", "ೈ"⟩,
  ⟨0xd3e, "െേ", "ൊോ"⟩,
  ⟨0xd57, "െ", "ൌ"⟩,
  ⟨0xdca, "ෙො", "ේෝ"⟩,
  ⟨0xdcf, "ෙ", "ො"⟩,
  ⟨0xddf, "ෙ", "ෞ"⟩,
  ⟨0x102e, "ဥ", "ဦ"⟩,
  ⟨0x1b35, "ᬅᬇᬉᬋᬍᬑᬺᬼᬾᬿᭂ", "ᬆᬈᬊᬌᬎᬒᬻᬽᭀᭁᭃ"⟩,
  ⟨0x3099, "うかきくけこさしすせそたちつてとはひふへほゝウカキクケコサシスセソタチツ", "ゔがぎぐげござじずぜぞだぢづでどばびぶべぼゞヴガギグゲゴザジズゼゾダヂヅ"⟩,
  ⟨0x3099, "テトハヒフヘホワヰヱヲヽ", "デドバビブベボヷヸヹヺヾ"⟩,
  ⟨0x309a, "はひふへほハヒフヘホ", "ぱぴぷぺぽパピプペポ"⟩,
  ⟨0x110ba, "𑂙𑂛𑂥", "𑂚𑂜𑂫"⟩,
  ⟨0x11127, "𑄱𑄲", "𑄮𑄯"⟩,
  ⟨0x1133e, "𑍇", "𑍋"⟩,
  ⟨0x11357, "𑍇", "𑍌"⟩,
  ⟨0x113b8, "𑏂", "𑏇"⟩,
  ⟨0x113bb, "𑎄", "𑎅"⟩,
  ⟨0x113c2, "𑎎", "𑎎𑏅"⟩,
  ⟨0x113c9, "𑎂𑎐𑏂", "𑎃𑎑𑏈"⟩,
  ⟨0x114b0, "𑒹", "𑒼"⟩,
  ⟨0x114ba, "𑒹", "𑒻"⟩,
  ⟨0x114bd, "𑒹", "𑒾"⟩,
  ⟨0x115af, "𑖸𑖹", "𑖺𑖻"⟩,
  ⟨0x11930, "𑤵", "𑤸"⟩,
  ⟨0x1611e, "𖄞", "𖄡"⟩,
  ⟨0x1611f, "𖄡𖄡𖄩𖄩", "𖄣𖄦𖄧𖄤"⟩,
  ⟨0x16120, "𖄡𖄞", "𖄥𖄨"⟩,
  ⟨0x16129, "𖄞", "𖄢"⟩,
  ⟨0x16d67, "𖵩𖵩", "𖵪𖵧𖵪"⟩]

end LoadHarness
