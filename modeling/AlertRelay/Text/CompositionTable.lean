/-!
# How characters are composed

The characters that are made up of others. A composed character is a pair of a character and a mark;
a letter or a sign of another form, width or place stands for one plain character; and some
characters stand for several. `combiningClasses` orders the marks behind a character: each class has
a place of its own, and marks of one class keep their order.
-/

namespace AlertRelay.Text.Composition

/-- The composed characters, each followed by the two that it is made of. -/
def pairTable : String :=
  String.join [
    "ÀA\u0300ÁA\u0301ÂA\u0302ÃA\u0303ÄA\u0308ÅA\u030aÇC\u0327ÈE\u0300ÉE\u0301ÊE\u0302",
    "ËE\u0308ÌI\u0300ÍI\u0301ÎI\u0302ÏI\u0308ÑN\u0303ÒO\u0300ÓO\u0301ÔO\u0302ÕO\u0303",
    "ÖO\u0308ÙU\u0300ÚU\u0301ÛU\u0302ÜU\u0308ÝY\u0301àa\u0300áa\u0301âa\u0302ãa\u0303",
    "äa\u0308åa\u030açc\u0327èe\u0300ée\u0301êe\u0302ëe\u0308ìi\u0300íi\u0301îi\u0302",
    "ïi\u0308ñn\u0303òo\u0300óo\u0301ôo\u0302õo\u0303öo\u0308ùu\u0300úu\u0301ûu\u0302",
    "üu\u0308ýy\u0301ÿy\u0308ĀA\u0304āa\u0304ĂA\u0306ăa\u0306ĄA\u0328ąa\u0328ĆC\u0301",
    "ćc\u0301ĈC\u0302ĉc\u0302ĊC\u0307ċc\u0307ČC\u030cčc\u030cĎD\u030cďd\u030cĒE\u0304",
    "ēe\u0304ĔE\u0306ĕe\u0306ĖE\u0307ėe\u0307ĘE\u0328ęe\u0328ĚE\u030cěe\u030cĜG\u0302",
    "ĝg\u0302ĞG\u0306ğg\u0306ĠG\u0307ġg\u0307ĢG\u0327ģg\u0327ĤH\u0302ĥh\u0302ĨI\u0303",
    "ĩi\u0303ĪI\u0304īi\u0304ĬI\u0306ĭi\u0306ĮI\u0328įi\u0328İI\u0307ĴJ\u0302ĵj\u0302",
    "ĶK\u0327ķk\u0327ĹL\u0301ĺl\u0301ĻL\u0327ļl\u0327ĽL\u030cľl\u030cŃN\u0301ńn\u0301",
    "ŅN\u0327ņn\u0327ŇN\u030cňn\u030cŌO\u0304ōo\u0304ŎO\u0306ŏo\u0306ŐO\u030bőo\u030b",
    "ŔR\u0301ŕr\u0301ŖR\u0327ŗr\u0327ŘR\u030cřr\u030cŚS\u0301śs\u0301ŜS\u0302ŝs\u0302",
    "ŞS\u0327şs\u0327ŠS\u030cšs\u030cŢT\u0327ţt\u0327ŤT\u030cťt\u030cŨU\u0303ũu\u0303",
    "ŪU\u0304ūu\u0304ŬU\u0306ŭu\u0306ŮU\u030aůu\u030aŰU\u030bűu\u030bŲU\u0328ųu\u0328",
    "ŴW\u0302ŵw\u0302ŶY\u0302ŷy\u0302ŸY\u0308ŹZ\u0301źz\u0301ŻZ\u0307żz\u0307ŽZ\u030c",
    "žz\u030cƠO\u031bơo\u031bƯU\u031bưu\u031bǍA\u030cǎa\u030cǏI\u030cǐi\u030cǑO\u030c",
    "ǒo\u030cǓU\u030cǔu\u030cǕÜ\u0304ǖü\u0304ǗÜ\u0301ǘü\u0301ǙÜ\u030cǚü\u030cǛÜ\u0300",
    "ǜü\u0300ǞÄ\u0304ǟä\u0304ǠȦ\u0304ǡȧ\u0304ǢÆ\u0304ǣæ\u0304ǦG\u030cǧg\u030cǨK\u030c",
    "ǩk\u030cǪO\u0328ǫo\u0328ǬǪ\u0304ǭǫ\u0304ǮƷ\u030cǯʒ\u030cǰj\u030cǴG\u0301ǵg\u0301",
    "ǸN\u0300ǹn\u0300ǺÅ\u0301ǻå\u0301ǼÆ\u0301ǽæ\u0301ǾØ\u0301ǿø\u0301ȀA\u030fȁa\u030f",
    "ȂA\u0311ȃa\u0311ȄE\u030fȅe\u030fȆE\u0311ȇe\u0311ȈI\u030fȉi\u030fȊI\u0311ȋi\u0311",
    "ȌO\u030fȍo\u030fȎO\u0311ȏo\u0311ȐR\u030fȑr\u030fȒR\u0311ȓr\u0311ȔU\u030fȕu\u030f",
    "ȖU\u0311ȗu\u0311ȘS\u0326șs\u0326ȚT\u0326țt\u0326ȞH\u030cȟh\u030cȦA\u0307ȧa\u0307",
    "ȨE\u0327ȩe\u0327ȪÖ\u0304ȫö\u0304ȬÕ\u0304ȭõ\u0304ȮO\u0307ȯo\u0307ȰȮ\u0304ȱȯ\u0304",
    "ȲY\u0304ȳy\u0304΅¨\u0301ΆΑ\u0301ΈΕ\u0301ΉΗ\u0301ΊΙ\u0301ΌΟ\u0301ΎΥ\u0301ΏΩ\u0301",
    "ΐϊ\u0301ΪΙ\u0308ΫΥ\u0308άα\u0301έε\u0301ήη\u0301ίι\u0301ΰϋ\u0301ϊι\u0308ϋυ\u0308",
    "όο\u0301ύυ\u0301ώω\u0301ϓϒ\u0301ϔϒ\u0308ЀЕ\u0300ЁЕ\u0308ЃГ\u0301ЇІ\u0308ЌК\u0301",
    "ЍИ\u0300ЎУ\u0306ЙИ\u0306йи\u0306ѐе\u0300ёе\u0308ѓг\u0301їі\u0308ќк\u0301ѝи\u0300",
    "ўу\u0306ѶѴ\u030fѷѵ\u030fӁЖ\u0306ӂж\u0306ӐА\u0306ӑа\u0306ӒА\u0308ӓа\u0308ӖЕ\u0306",
    "ӗе\u0306ӚӘ\u0308ӛә\u0308ӜЖ\u0308ӝж\u0308ӞЗ\u0308ӟз\u0308ӢИ\u0304ӣи\u0304ӤИ\u0308",
    "ӥи\u0308ӦО\u0308ӧо\u0308ӪӨ\u0308ӫө\u0308ӬЭ\u0308ӭэ\u0308ӮУ\u0304ӯу\u0304ӰУ\u0308",
    "ӱу\u0308ӲУ\u030bӳу\u030bӴЧ\u0308ӵч\u0308ӸЫ\u0308ӹы\u0308\u0622\u0627\u0653",
    "\u0623\u0627\u0654\u0624\u0648\u0654\u0625\u0627\u0655\u0626\u064a\u0654",
    "\u06c0\u06d5\u0654\u06c2\u06c1\u0654\u06d3\u06d2\u0654ऩन\u093cऱर\u093cऴळ\u093c",
    "\u09cb\u09c7\u09be\u09cc\u09c7\u09d7\u0b48\u0b47\u0b56\u0b4b\u0b47\u0b3e",
    "\u0b4c\u0b47\u0b57ஔஒ\u0bd7\u0bca\u0bc6\u0bbe\u0bcb\u0bc7\u0bbe\u0bcc\u0bc6\u0bd7",
    "\u0c48\u0c46\u0c56\u0cc0\u0cbf\u0cd5\u0cc7\u0cc6\u0cd5\u0cc8\u0cc6\u0cd6",
    "\u0cca\u0cc6\u0cc2\u0ccb\u0cca\u0cd5\u0d4a\u0d46\u0d3e\u0d4b\u0d47\u0d3e",
    "\u0d4c\u0d46\u0d57\u0dda\u0dd9\u0dca\u0ddc\u0dd9\u0dcf\u0ddd\u0ddc\u0dca",
    "\u0dde\u0dd9\u0ddfဦဥ\u102eḀA\u0325ḁa\u0325ḂB\u0307ḃb\u0307ḄB\u0323ḅb\u0323ḆB\u0331",
    "ḇb\u0331ḈÇ\u0301ḉç\u0301ḊD\u0307ḋd\u0307ḌD\u0323ḍd\u0323ḎD\u0331ḏd\u0331ḐD\u0327",
    "ḑd\u0327ḒD\u032dḓd\u032dḔĒ\u0300ḕē\u0300ḖĒ\u0301ḗē\u0301ḘE\u032dḙe\u032dḚE\u0330",
    "ḛe\u0330ḜȨ\u0306ḝȩ\u0306ḞF\u0307ḟf\u0307ḠG\u0304ḡg\u0304ḢH\u0307ḣh\u0307ḤH\u0323",
    "ḥh\u0323ḦH\u0308ḧh\u0308ḨH\u0327ḩh\u0327ḪH\u032eḫh\u032eḬI\u0330ḭi\u0330ḮÏ\u0301",
    "ḯï\u0301ḰK\u0301ḱk\u0301ḲK\u0323ḳk\u0323ḴK\u0331ḵk\u0331ḶL\u0323ḷl\u0323ḸḶ\u0304",
    "ḹḷ\u0304ḺL\u0331ḻl\u0331ḼL\u032dḽl\u032dḾM\u0301ḿm\u0301ṀM\u0307ṁm\u0307ṂM\u0323",
    "ṃm\u0323ṄN\u0307ṅn\u0307ṆN\u0323ṇn\u0323ṈN\u0331ṉn\u0331ṊN\u032dṋn\u032dṌÕ\u0301",
    "ṍõ\u0301ṎÕ\u0308ṏõ\u0308ṐŌ\u0300ṑō\u0300ṒŌ\u0301ṓō\u0301ṔP\u0301ṕp\u0301ṖP\u0307",
    "ṗp\u0307ṘR\u0307ṙr\u0307ṚR\u0323ṛr\u0323ṜṚ\u0304ṝṛ\u0304ṞR\u0331ṟr\u0331ṠS\u0307",
    "ṡs\u0307ṢS\u0323ṣs\u0323ṤŚ\u0307ṥś\u0307ṦŠ\u0307ṧš\u0307ṨṢ\u0307ṩṣ\u0307ṪT\u0307",
    "ṫt\u0307ṬT\u0323ṭt\u0323ṮT\u0331ṯt\u0331ṰT\u032dṱt\u032dṲU\u0324ṳu\u0324ṴU\u0330",
    "ṵu\u0330ṶU\u032dṷu\u032dṸŨ\u0301ṹũ\u0301ṺŪ\u0308ṻū\u0308ṼV\u0303ṽv\u0303ṾV\u0323",
    "ṿv\u0323ẀW\u0300ẁw\u0300ẂW\u0301ẃw\u0301ẄW\u0308ẅw\u0308ẆW\u0307ẇw\u0307ẈW\u0323",
    "ẉw\u0323ẊX\u0307ẋx\u0307ẌX\u0308ẍx\u0308ẎY\u0307ẏy\u0307ẐZ\u0302ẑz\u0302ẒZ\u0323",
    "ẓz\u0323ẔZ\u0331ẕz\u0331ẖh\u0331ẗt\u0308ẘw\u030aẙy\u030aẛſ\u0307ẠA\u0323ạa\u0323",
    "ẢA\u0309ảa\u0309ẤÂ\u0301ấâ\u0301ẦÂ\u0300ầâ\u0300ẨÂ\u0309ẩâ\u0309ẪÂ\u0303ẫâ\u0303",
    "ẬẠ\u0302ậạ\u0302ẮĂ\u0301ắă\u0301ẰĂ\u0300ằă\u0300ẲĂ\u0309ẳă\u0309ẴĂ\u0303ẵă\u0303",
    "ẶẠ\u0306ặạ\u0306ẸE\u0323ẹe\u0323ẺE\u0309ẻe\u0309ẼE\u0303ẽe\u0303ẾÊ\u0301ếê\u0301",
    "ỀÊ\u0300ềê\u0300ỂÊ\u0309ểê\u0309ỄÊ\u0303ễê\u0303ỆẸ\u0302ệẹ\u0302ỈI\u0309ỉi\u0309",
    "ỊI\u0323ịi\u0323ỌO\u0323ọo\u0323ỎO\u0309ỏo\u0309ỐÔ\u0301ốô\u0301ỒÔ\u0300ồô\u0300",
    "ỔÔ\u0309ổô\u0309ỖÔ\u0303ỗô\u0303ỘỌ\u0302ộọ\u0302ỚƠ\u0301ớơ\u0301ỜƠ\u0300ờơ\u0300",
    "ỞƠ\u0309ởơ\u0309ỠƠ\u0303ỡơ\u0303ỢƠ\u0323ợơ\u0323ỤU\u0323ụu\u0323ỦU\u0309ủu\u0309",
    "ỨƯ\u0301ứư\u0301ỪƯ\u0300ừư\u0300ỬƯ\u0309ửư\u0309ỮƯ\u0303ữư\u0303ỰƯ\u0323ựư\u0323",
    "ỲY\u0300ỳy\u0300ỴY\u0323ỵy\u0323ỶY\u0309ỷy\u0309ỸY\u0303ỹy\u0303ἀα\u0313ἁα\u0314",
    "ἂἀ\u0300ἃἁ\u0300ἄἀ\u0301ἅἁ\u0301ἆἀ\u0342ἇἁ\u0342ἈΑ\u0313ἉΑ\u0314ἊἈ\u0300ἋἉ\u0300",
    "ἌἈ\u0301ἍἉ\u0301ἎἈ\u0342ἏἉ\u0342ἐε\u0313ἑε\u0314ἒἐ\u0300ἓἑ\u0300ἔἐ\u0301ἕἑ\u0301",
    "ἘΕ\u0313ἙΕ\u0314ἚἘ\u0300ἛἙ\u0300ἜἘ\u0301ἝἙ\u0301ἠη\u0313ἡη\u0314ἢἠ\u0300ἣἡ\u0300",
    "ἤἠ\u0301ἥἡ\u0301ἦἠ\u0342ἧἡ\u0342ἨΗ\u0313ἩΗ\u0314ἪἨ\u0300ἫἩ\u0300ἬἨ\u0301ἭἩ\u0301",
    "ἮἨ\u0342ἯἩ\u0342ἰι\u0313ἱι\u0314ἲἰ\u0300ἳἱ\u0300ἴἰ\u0301ἵἱ\u0301ἶἰ\u0342ἷἱ\u0342",
    "ἸΙ\u0313ἹΙ\u0314ἺἸ\u0300ἻἹ\u0300ἼἸ\u0301ἽἹ\u0301ἾἸ\u0342ἿἹ\u0342ὀο\u0313ὁο\u0314",
    "ὂὀ\u0300ὃὁ\u0300ὄὀ\u0301ὅὁ\u0301ὈΟ\u0313ὉΟ\u0314ὊὈ\u0300ὋὉ\u0300ὌὈ\u0301ὍὉ\u0301",
    "ὐυ\u0313ὑυ\u0314ὒὐ\u0300ὓὑ\u0300ὔὐ\u0301ὕὑ\u0301ὖὐ\u0342ὗὑ\u0342ὙΥ\u0314ὛὙ\u0300",
    "ὝὙ\u0301ὟὙ\u0342ὠω\u0313ὡω\u0314ὢὠ\u0300ὣὡ\u0300ὤὠ\u0301ὥὡ\u0301ὦὠ\u0342ὧὡ\u0342",
    "ὨΩ\u0313ὩΩ\u0314ὪὨ\u0300ὫὩ\u0300ὬὨ\u0301ὭὩ\u0301ὮὨ\u0342ὯὩ\u0342ὰα\u0300ὲε\u0300",
    "ὴη\u0300ὶι\u0300ὸο\u0300ὺυ\u0300ὼω\u0300ᾀἀ\u0345ᾁἁ\u0345ᾂἂ\u0345ᾃἃ\u0345ᾄἄ\u0345",
    "ᾅἅ\u0345ᾆἆ\u0345ᾇἇ\u0345ᾈἈ\u0345ᾉἉ\u0345ᾊἊ\u0345ᾋἋ\u0345ᾌἌ\u0345ᾍἍ\u0345ᾎἎ\u0345",
    "ᾏἏ\u0345ᾐἠ\u0345ᾑἡ\u0345ᾒἢ\u0345ᾓἣ\u0345ᾔἤ\u0345ᾕἥ\u0345ᾖἦ\u0345ᾗἧ\u0345ᾘἨ\u0345",
    "ᾙἩ\u0345ᾚἪ\u0345ᾛἫ\u0345ᾜἬ\u0345ᾝἭ\u0345ᾞἮ\u0345ᾟἯ\u0345ᾠὠ\u0345ᾡὡ\u0345ᾢὢ\u0345",
    "ᾣὣ\u0345ᾤὤ\u0345ᾥὥ\u0345ᾦὦ\u0345ᾧὧ\u0345ᾨὨ\u0345ᾩὩ\u0345ᾪὪ\u0345ᾫὫ\u0345ᾬὬ\u0345",
    "ᾭὭ\u0345ᾮὮ\u0345ᾯὯ\u0345ᾰα\u0306ᾱα\u0304ᾲὰ\u0345ᾳα\u0345ᾴά\u0345ᾶα\u0342ᾷᾶ\u0345",
    "ᾸΑ\u0306ᾹΑ\u0304ᾺΑ\u0300ᾼΑ\u0345῁¨\u0342ῂὴ\u0345ῃη\u0345ῄή\u0345ῆη\u0342ῇῆ\u0345",
    "ῈΕ\u0300ῊΗ\u0300ῌΗ\u0345῍᾿\u0300῎᾿\u0301῏᾿\u0342ῐι\u0306ῑι\u0304ῒϊ\u0300ῖι\u0342",
    "ῗϊ\u0342ῘΙ\u0306ῙΙ\u0304ῚΙ\u0300῝῾\u0300῞῾\u0301῟῾\u0342ῠυ\u0306ῡυ\u0304ῢϋ\u0300",
    "ῤρ\u0313ῥρ\u0314ῦυ\u0342ῧϋ\u0342ῨΥ\u0306ῩΥ\u0304ῪΥ\u0300ῬΡ\u0314῭¨\u0300ῲὼ\u0345",
    "ῳω\u0345ῴώ\u0345ῶω\u0342ῷῶ\u0345ῸΟ\u0300ῺΩ\u0300ῼΩ\u0345↚←\u0338↛→\u0338↮↔\u0338",
    "⇍⇐\u0338⇎⇔\u0338⇏⇒\u0338∄∃\u0338∉∈\u0338∌∋\u0338∤∣\u0338∦∥\u0338≁∼\u0338≄≃\u0338",
    "≇≅\u0338≉≈\u0338≠=\u0338≢≡\u0338≭≍\u0338≮<\u0338≯>\u0338≰≤\u0338≱≥\u0338≴≲\u0338",
    "≵≳\u0338≸≶\u0338≹≷\u0338⊀≺\u0338⊁≻\u0338⊄⊂\u0338⊅⊃\u0338⊈⊆\u0338⊉⊇\u0338⊬⊢\u0338",
    "⊭⊨\u0338⊮⊩\u0338⊯⊫\u0338⋠≼\u0338⋡≽\u0338⋢⊑\u0338⋣⊒\u0338⋪⊲\u0338⋫⊳\u0338⋬⊴\u0338",
    "⋭⊵\u0338がか\u3099ぎき\u3099ぐく\u3099げけ\u3099ごこ\u3099ざさ\u3099じし\u3099ずす\u3099ぜせ\u3099",
    "ぞそ\u3099だた\u3099ぢち\u3099づつ\u3099でて\u3099どと\u3099ばは\u3099ぱは\u309aびひ\u3099ぴひ\u309a",
    "ぶふ\u3099ぷふ\u309aべへ\u3099ぺへ\u309aぼほ\u3099ぽほ\u309aゔう\u3099ゞゝ\u3099ガカ\u3099ギキ\u3099",
    "グク\u3099ゲケ\u3099ゴコ\u3099ザサ\u3099ジシ\u3099ズス\u3099ゼセ\u3099ゾソ\u3099ダタ\u3099ヂチ\u3099",
    "ヅツ\u3099デテ\u3099ドト\u3099バハ\u3099パハ\u309aビヒ\u3099ピヒ\u309aブフ\u3099プフ\u309aベヘ\u3099",
    "ペヘ\u309aボホ\u3099ポホ\u309aヴウ\u3099ヷワ\u3099ヸヰ\u3099ヹヱ\u3099ヺヲ\u3099ヾヽ\u3099"]

/-- Pairs that make up a character, which however is never taken apart. -/
def latePairs : List (Nat × Nat × Nat) :=
  [(0x1B06, 0x1B05, 0x1B35), (0x1B08, 0x1B07, 0x1B35), (0x1B0A, 0x1B09, 0x1B35),
    (0x1B0C, 0x1B0B, 0x1B35), (0x1B0E, 0x1B0D, 0x1B35), (0x1B12, 0x1B11, 0x1B35),
    (0x1B3B, 0x1B3A, 0x1B35), (0x1B3D, 0x1B3C, 0x1B35), (0x1B40, 0x1B3E, 0x1B35),
    (0x1B41, 0x1B3F, 0x1B35), (0x1B43, 0x1B42, 0x1B35), (0x1109A, 0x11099, 0x110BA),
    (0x1109C, 0x1109B, 0x110BA), (0x110AB, 0x110A5, 0x110BA), (0x1112E, 0x11131, 0x11127),
    (0x1112F, 0x11132, 0x11127), (0x1134B, 0x11347, 0x1133E), (0x1134C, 0x11347, 0x11357),
    (0x114BB, 0x114B9, 0x114BA), (0x114BC, 0x114B9, 0x114B0), (0x114BE, 0x114B9, 0x114BD),
    (0x115BA, 0x115B8, 0x115AF), (0x115BB, 0x115B9, 0x115AF), (0x11938, 0x11935, 0x11930)]

/-- Characters that stand for one other, as runs: the number of the first and what the characters of
the run stand for in order. -/
def singleRuns : List (Nat × String) :=
  [(0xA0, " "), (0xAA, "a"), (0xB2, "23"), (0xB5, "μ"), (0xB9, "1o"), (0x17F, "s"),
    (0x2B0, "hɦjrɹɻʁwy"), (0x2E0, "ɣlsxʕ"), (0x340, "\u0300\u0301"), (0x343, "\u0313"),
    (0x374, "ʹ"), (0x37E, ";"), (0x387, "·"), (0x3D0, "βθΥ"), (0x3D5, "φπ"), (0x3F0, "κρς"),
    (0x3F4, "Θε"), (0xF0C, "་"), (0x1FBE, "ι"), (0x1FEF, "`"), (0x2000, "           "),
    (0x2011, "‐"), (0x2024, "."), (0x202F, " "), (0x205F, " "), (0x2070, "0i"),
    (0x2074, "456789+−=()n0123456789+−=()"), (0x2102, "C"), (0x2107, "Ɛ"), (0x210A, "gHHHhħIILl"),
    (0x2115, "N"), (0x2119, "PQRRR"), (0x2124, "Z"), (0x2126, "Ω"), (0x2128, "Z"), (0x212A, "K"),
    (0x212C, "BC"), (0x212F, "eEF"), (0x2133, "Mo\u05d0\u05d1\u05d2\u05d3i"), (0x213D, "γΓΠ∑"),
    (0x2145, "Ddeij"), (0x2160, "I"), (0x2164, "V"), (0x2169, "X"), (0x216C, "LCDMi"),
    (0x2174, "v"), (0x2179, "x"), (0x217C, "lcdm"), (0x2329, "〈〉"), (0x2460, "123456789"),
    (0x24B6, "ABCDEFGHIJKLMNOPQRSTUVWXYZabcdefghijklmnopqrstuvwxyz0"), (0x2E9F, "母"),
    (0x2EF3, "龟"),
    (0x2F00, "一丨丶丿乙亅二亠人儿入八冂冖冫几凵刀力勹匕匚匸十卜卩厂厶又口囗土士夂夊夕大女子宀寸小尢尸屮山巛工己巾干幺广廴廾弋弓彐彡彳心戈戶手支攴文斗斤方无日曰月木欠止歹殳毋" ++
      "比毛氏气水火爪父爻爿片牙牛犬玄玉瓜瓦甘生用田疋疒癶白皮皿目矛矢石示禸禾穴立竹米糸缶网羊羽老而耒耳聿肉臣自至臼舌舛舟艮色艸虍虫血行衣襾見角言谷豆豕豸貝赤走足身車辛" ++
      "辰辵邑酉釆里金長門阜隶隹雨靑非面革韋韭音頁風飛食首香馬骨高髟鬥鬯鬲鬼魚鳥鹵鹿麥麻黃黍黑黹黽鼎鼓鼠鼻齊齒龍龜龠"),
    (0x3000, " "), (0x3036, "〒"), (0x3038, "十卄卅"),
    (0x3131, "ᄀᄁᆪᄂᆬᆭᄃᄄᄅᆰᆱᆲᆳᆴᆵᄚᄆᄇᄈᄡᄉᄊᄋᄌᄍᄎᄏᄐᄑ하ᅢᅣᅤᅥᅦᅧᅨᅩᅪᅫᅬᅭᅮᅯᅰᅱᅲᅳᅴᅵᅠᄔᄕᇇᇈᇌᇎᇓᇗᇙᄜᇝᇟᄝᄞᄠᄢᄣᄧᄩᄫᄬᄭᄮᄯᄲᄶᅀᅇ" ++
      "ᅌᇱᇲᅗᅘᅙᆄᆅᆈᆑᆒᆔᆞᆡ"),
    (0x3192, "一二三四上中下甲乙丙丁天地人"), (0x3260, "ᄀᄂᄃᄅᄆᄇᄉᄋᄌᄎᄏᄐᄑᄒ"),
    (0x3280, "一二三四五六七八九十月火水木金土日株有社名特財祝労秘男女適優印注項休写正上中下左右医宗学監企資協夜"),
    (0x32D0, "アイウエオカキクケコサシスセソタチツテトナニヌネノハヒフヘホマミムメモヤユヨラリルレロワヰヱヲ"),
    (0xF900, "豈更車賈滑串句龜龜契金喇奈懶癩羅蘿螺裸邏樂洛烙珞落酪駱亂卵欄爛蘭鸞嵐濫藍襤拉臘蠟廊朗浪狼郎來冷勞擄櫓爐盧老蘆虜路露魯鷺碌祿綠菉錄鹿論壟弄籠聾牢磊賂雷壘屢樓淚漏累" ++
      "縷陋勒肋凜凌稜綾菱陵讀拏樂諾丹寧怒率異北磻便復不泌數索參塞省葉說殺辰沈拾若掠略亮兩凉梁糧良諒量勵呂女廬旅濾礪閭驪麗黎力曆歷轢年憐戀撚漣煉璉秊練聯輦蓮連鍊列劣咽烈" ++
      "裂說廉念捻殮簾獵令囹寧嶺怜玲瑩羚聆鈴零靈領例禮醴隸惡了僚寮尿料樂燎療蓼遼龍暈阮劉杻柳流溜琉留硫紐類六戮陸倫崙淪輪律慄栗率隆利吏履易李梨泥理痢罹裏裡里離匿溺吝燐璘" ++
      "藺隣鱗麟林淋臨立笠粒狀炙識什茶刺切度拓糖宅洞暴輻行降見廓兀嗀"),
    (0xFA10, "塚"), (0xFA12, "晴"), (0xFA15, "凞猪益礼神祥福靖精羽"), (0xFA20, "蘒"), (0xFA22, "諸"),
    (0xFA25, "逸都"), (0xFA2A, "飯飼館鶴"),
    (0xFA30, "侮僧免勉勤卑喝嘆器塀墨層屮悔慨憎懲敏既暑梅海渚漢煮爫琢碑社祉祈祐祖祝禍禎穀突節練縉繁署者臭艹艹著褐視謁謹賓贈辶逸難響頻"),
    (0xFB20, "\u05e2\u05d0\u05d3\u05d4\u05db\u05dc\u05dd\u05e8\u05ea+"),
    (0xFB50, "\u0671\u0671\u067b\u067b\u067b\u067b\u067e\u067e\u067e\u067e\u0680\u0680\u0680" ++
      "\u0680\u067a\u067a\u067a\u067a\u067f\u067f\u067f\u067f\u0679\u0679\u0679\u0679" ++
      "\u06a4\u06a4\u06a4\u06a4\u06a6\u06a6\u06a6\u06a6\u0684\u0684\u0684\u0684\u0683" ++
      "\u0683\u0683\u0683\u0686\u0686\u0686\u0686\u0687\u0687\u0687\u0687\u068d\u068d" ++
      "\u068c\u068c\u068e\u068e\u0688\u0688\u0698\u0698\u0691\u0691\u06a9\u06a9\u06a9" ++
      "\u06a9\u06af\u06af\u06af\u06af\u06b3\u06b3\u06b3\u06b3\u06b1\u06b1\u06b1\u06b1" ++
      "\u06ba\u06ba\u06bb\u06bb\u06bb\u06bb"),
    (0xFBA6, "\u06c1\u06c1\u06c1\u06c1\u06be\u06be\u06be\u06be\u06d2\u06d2"),
    (0xFBD3, "\u06ad\u06ad\u06ad\u06ad\u06c7\u06c7\u06c6\u06c6\u06c8\u06c8"),
    (0xFBDE, "\u06cb\u06cb\u06c5\u06c5\u06c9\u06c9\u06d0\u06d0\u06d0\u06d0\u0649\u0649"),
    (0xFBFC, "\u06cc\u06cc\u06cc\u06cc"), (0xFE31, "—–__()\x7b\x7d〔〕【】《》〈〉「」『』"),
    (0xFE4D, "___,、."), (0xFE54, ";:?!—()\x7b\x7d〔〕#&*+-<>="), (0xFE68, "\\$%@"),
    (0xFE80, "\u0621"),
    (0xFE8D, "\u0627\u0627\u0628\u0628\u0628\u0628\u0629\u0629\u062a\u062a\u062a\u062a\u062b" ++
      "\u062b\u062b\u062b\u062c\u062c\u062c\u062c\u062d\u062d\u062d\u062d\u062e\u062e" ++
      "\u062e\u062e\u062f\u062f\u0630\u0630\u0631\u0631\u0632\u0632\u0633\u0633\u0633" ++
      "\u0633\u0634\u0634\u0634\u0634\u0635\u0635\u0635\u0635\u0636\u0636\u0636\u0636" ++
      "\u0637\u0637\u0637\u0637\u0638\u0638\u0638\u0638\u0639\u0639\u0639\u0639\u063a" ++
      "\u063a\u063a\u063a\u0641\u0641\u0641\u0641\u0642\u0642\u0642\u0642\u0643\u0643" ++
      "\u0643\u0643\u0644\u0644\u0644\u0644\u0645\u0645\u0645\u0645\u0646\u0646\u0646" ++
      "\u0646\u0647\u0647\u0647\u0647\u0648\u0648\u0649\u0649\u064a\u064a\u064a\u064a"),
    (0xFF01, "!\"#$%&'()*+,-./0123456789:;<=>?@ABCDEFGHIJKLMNOPQRSTUVWXYZ[\\]^_`abcdefghijklmn" ++
      "opqrstuvwxyz\x7b|\x7d~⦅⦆。「」、・ヲァィゥェォャュョッーアイウエオカキクケコサシスセソタチツテトナニヌネノハヒフヘホマミムメモヤユヨラリ" ++
      "ルレロワン\u3099\u309aᅠᄀᄁᆪᄂᆬᆭᄃᄄᄅᆰᆱᆲᆳᆴᆵᄚᄆᄇᄈᄡᄉᄊᄋᄌᄍᄎᄏᄐᄑᄒ"),
    (0xFFC2, "ᅡᅢᅣᅤᅥᅦ"), (0xFFCA, "ᅧᅨᅩᅪᅫᅬ"), (0xFFD2, "ᅭᅮᅯᅰᅱᅲ"), (0xFFDA, "ᅳᅴᅵ"), (0xFFE0, "¢£¬"),
    (0xFFE4, "¦¥₩"), (0xFFE8, "│←↑→↓■○"),
    (0x1D400, "ABCDEFGHIJKLMNOPQRSTUVWXYZabcdefghijklmnopqrstuvwxyzABCDEFGHIJKLMNOPQRSTUVWXYZab" ++
      "cdefg"),
    (0x1D456, "ijklmnopqrstuvwxyzABCDEFGHIJKLMNOPQRSTUVWXYZabcdefghijklmnopqrstuvwxyzA"),
    (0x1D49E, "CD"), (0x1D4A2, "G"), (0x1D4A5, "JK"), (0x1D4A9, "NOPQ"),
    (0x1D4AE, "STUVWXYZabcd"), (0x1D4BB, "f"), (0x1D4BD, "hijk"), (0x1D4C2, "mn"),
    (0x1D4C5, "pqrstuvwxyzABCDEFGHIJKLMNOPQRSTUVWXYZabcdefghijklmnopqrstuvwxyzAB"),
    (0x1D507, "DEFG"), (0x1D50D, "JKLMNOPQ"), (0x1D516, "STUVWXY"),
    (0x1D51E, "abcdefghijklmnopqrstuvwxyzAB"), (0x1D53B, "DEFG"), (0x1D540, "IJKLM"),
    (0x1D546, "O"), (0x1D54A, "STUVWXY"),
    (0x1D552, "abcdefghijklmnopqrstuvwxyzABCDEFGHIJKLMNOPQRSTUVWXYZabcdefghijklmnopqrstuvwxyzAB" ++
      "CDEFGHIJKLMNOPQRSTUVWXYZabcdefghijklmnopqrstuvwxyzABCDEFGHIJKLMNOPQRSTUVWXYZabcd" ++
      "efghijklmnopqrstuvwxyzABCDEFGHIJKLMNOPQRSTUVWXYZabcdefghijklmnopqrstuvwxyzABCDEF" ++
      "GHIJKLMNOPQRSTUVWXYZabcdefghijklmnopqrstuvwxyzABCDEFGHIJKLMNOPQRSTUVWXYZabcdefgh" ++
      "ijklmnopqrstuvwxyz"),
    (0x1D6A8, "ΑΒΓΔΕΖΗΘΙΚΛΜΝΞΟΠΡΘΣΤΥΦΧΨΩ∇αβγδεζηθικλμνξοπρςστυφχψω∂εθκφρπΑΒΓΔΕΖΗΘΙΚΛΜΝΞΟΠΡΘΣΤΥΦ" ++
      "ΧΨΩ∇αβγδεζηθικλμνξοπρςστυφχψω∂εθκφρπΑΒΓΔΕΖΗΘΙΚΛΜΝΞΟΠΡΘΣΤΥΦΧΨΩ∇αβγδεζηθικλμνξοπρς" ++
      "στυφχψω∂εθκφρπΑΒΓΔΕΖΗΘΙΚΛΜΝΞΟΠΡΘΣΤΥΦΧΨΩ∇αβγδεζηθικλμνξοπρςστυφχψω∂εθκφρπΑΒΓΔΕΖΗΘ" ++
      "ΙΚΛΜΝΞΟΠΡΘΣΤΥΦΧΨΩ∇αβγδεζηθικλμνξοπρςστυφχψω∂εθκφρπ"),
    (0x1D7CE, "01234567890123456789012345678901234567890123456789"),
    (0x2F800, "丽丸乁𠄢你侮侻倂偺備僧像㒞𠘺免兔兤具𠔜㒹內再𠕋冗冤仌冬况𩇟凵刃㓟刻剆割剷㔕勇勉勤勺包匆北卉卑博即卽卿卿卿𠨬灰及叟𠭣叫叱吆咞吸呈周咢哶唐啓啣善善喙喫喳嗂圖嘆圗噑噴" ++
      "切壮城埴堍型堲報墬𡓤売壷夆多夢奢𡚨𡛪姬娛娧姘婦㛮𡍪嬈嬾嬾𡧈寃寘寧寳𡬘寿将弳尢㞁屠屮峀岍𡷤嵃𡷦嵮嵫嵼巡巢㠯巽帨帽幩㡢𢆃㡼庰庳庶廊𪎒廾𢌱𢌱舁弢弢㣇𣊸𦇚形彫㣣徚忍志忹" ++
      "悁㤺㤜悔𢛔惇慈慌慎慌慺憎憲憤憯懞懲懶成戛扝抱拔捐𢬌挽拼捨掃揤𢯱搢揅掩㨮摩摾撝摷㩬敏敬𣀊旣書晉㬙暑㬈㫤冒冕最暜肭䏙朗望朡杞杓𣏃㭉柺枅桒梅𣑭梎栟椔㮝楂榣槪檨𣚣櫛㰘次" ++
      "𣢧歔㱎歲殟殺殻𣪍𡴋𣫺汎𣲼沿泍汧洖派海流浩浸涅𣴞洴港湮㴳滋滇𣻑淹潮𣽞𣾎濆瀹瀞瀛㶖灊災灷炭𠔥煅𤉣熜䎫爨爵牐𤘈犀犕𤜵𤠔獺王㺬玥㺸㺸瑇瑜瑱璅瓊㼛甤𤰶甾𤲒異𢆟瘐𤾡𤾸𥁄㿼䀈" ++
      "直𥃳𥃲𥄙𥄳眞真真睊䀹瞋䁆䂖𥐝硎碌磌䃣𥘦祖𥚚𥛅福秫䄯穀穊穏𥥼𥪧𥪧窮䈂𥮫篆築䈧𥲀糒䊠糨糣紀𥾆絣䌁緇縂繅䌴𦈨𦉇䍙𦋙罺𦌾羕翺者𦓚𦔣聠𦖨聰𣍟䏕育脃䐋脾媵𦞧𦞵𣎓𣎜舁舄辞䑫芑" ++
      "芋芝劳花芳芽苦𦬼若茝荣莭茣莽菧著荓菊菌菜𦰶𦵫𦳕䔫蓱蓳蔖𧏊蕤𦼬䕝䕡𦾱𧃒䕫虐虜虧虩蚩蚈蜎蛢蝹蜨蝫螆䵗蟡蠁䗹衠衣𧙧裗裞䘵裺㒻𧢮𧥦䚾䛇誠諭變豕𧲨貫賁贛起𧼯𠠄跋趼跰𠣞軔輸" ++
      "𨗒𨗭邔郱鄑𨜮鄛鈸鋗鋘鉼鏹鐕𨯺開䦕閷𨵷䧦雃嶲霣𩅅𩈚䩮䩶韠𩐊䪲𩒖頋頋頩𩖶飢䬳餩馧駂駾䯎𩬰鬒鱀鳽䳎䳭鵧𪃎䳸𪄅𪈎𪊑麻䵖黹黾鼅鼏鼖鼻𪘀")]

/-- Characters that stand for several others: each with what it stands for, and a bar behind it. -/
def wordTable : String :=
  String.join [
    "¨ \u0308|¯ \u0304|´ \u0301|¸ \u0327|¼1⁄4|½1⁄2|¾3⁄4|ĲIJ|ĳij|ĿL·|ŀl·|ŉʼn|ǄDZ\u030c|",
    "ǅDz\u030c|ǆdz\u030c|ǇLJ|ǈLj|ǉlj|ǊNJ|ǋNj|ǌnj|ǱDZ|ǲDz|ǳdz|˘ \u0306|˙ \u0307|˚ \u030a|",
    "˛ \u0328|˜ \u0303|˝ \u030b|\u0344\u0308\u0301|ͺ \u0345|΄ \u0301|ևեւ|",
    "\u0675\u0627\u0674|\u0676\u0648\u0674|\u0677\u06c7\u0674|\u0678\u064a\u0674|क़क\u093c|",
    "ख़ख\u093c|ग़ग\u093c|ज़ज\u093c|ड़ड\u093c|ढ़ढ\u093c|फ़फ\u093c|य़य\u093c|ড়ড\u09bc|ঢ়ঢ\u09bc|",
    "য়য\u09bc|ਲ਼ਲ\u0a3c|ਸ਼ਸ\u0a3c|ਖ਼ਖ\u0a3c|ਗ਼ਗ\u0a3c|ਜ਼ਜ\u0a3c|ਫ਼ਫ\u0a3c|ଡ଼ଡ\u0b3c|ଢ଼ଢ\u0b3c|",
    "ำ\u0e4dา|ຳ\u0ecdາ|ໜຫນ|ໝຫມ|གྷག\u0fb7|ཌྷཌ\u0fb7|དྷད\u0fb7|བྷབ\u0fb7|ཛྷཛ\u0fb7|ཀྵཀ\u0fb5|",
    "\u0f73\u0f71\u0f72|\u0f75\u0f71\u0f74|\u0f76\u0fb2\u0f80|\u0f77\u0fb2\u0f71\u0f80|",
    "\u0f78\u0fb3\u0f80|\u0f79\u0fb3\u0f71\u0f80|\u0f81\u0f71\u0f80|\u0f93\u0f92\u0fb7|",
    "\u0f9d\u0f9c\u0fb7|\u0fa2\u0fa1\u0fb7|\u0fa7\u0fa6\u0fb7|\u0fac\u0fab\u0fb7|",
    "\u0fb9\u0f90\u0fb5|ẚaʾ|άα\u0301|έε\u0301|ήη\u0301|ίι\u0301|όο\u0301|ύυ\u0301|ώω\u0301|",
    "ΆΑ\u0301|᾽ \u0313|᾿ \u0313|῀ \u0342|ΈΕ\u0301|ΉΗ\u0301|ΐι\u0308\u0301|ΊΙ\u0301|",
    "ΰυ\u0308\u0301|ΎΥ\u0301|΅ \u0308\u0301|ΌΟ\u0301|ΏΩ\u0301|´ \u0301|῾ \u0314|‗ \u0333|",
    "‥..|…...|″′′|‴′′′|‶‵‵|‷‵‵‵|‼!!|‾ \u0305|⁇??|⁈?!|⁉!?|⁗′′′′|₨Rs|℀a/c|℁a/s|℃°C|℅c/o|℆c/u|",
    "℉°F|№No|℠SM|℡TEL|™TM|ÅA\u030a|⅓1⁄3|⅔2⁄3|⅕1⁄5|⅖2⁄5|⅗3⁄5|⅘4⁄5|⅙1⁄6|⅚5⁄6|⅛1⁄8|⅜3⁄8|⅝5⁄8|",
    "⅞7⁄8|⅟1⁄|ⅡII|ⅢIII|ⅣIV|ⅥVI|ⅦVII|ⅧVIII|ⅨIX|ⅪXI|ⅫXII|ⅱii|ⅲiii|ⅳiv|ⅵvi|ⅶvii|ⅷviii|ⅸix|ⅺxi|",
    "ⅻxii|∬∫∫|∭∫∫∫|∯∮∮|∰∮∮∮|⑩10|⑪11|⑫12|⑬13|⑭14|⑮15|⑯16|⑰17|⑱18|⑲19|⑳20|⑴(1)|⑵(2)|⑶(3)|",
    "⑷(4)|⑸(5)|⑹(6)|⑺(7)|⑻(8)|⑼(9)|⑽(10)|⑾(11)|⑿(12)|⒀(13)|⒁(14)|⒂(15)|⒃(16)|⒄(17)|⒅(18)|",
    "⒆(19)|⒇(20)|⒈1.|⒉2.|⒊3.|⒋4.|⒌5.|⒍6.|⒎7.|⒏8.|⒐9.|⒑10.|⒒11.|⒓12.|⒔13.|⒕14.|⒖15.|⒗16.|",
    "⒘17.|⒙18.|⒚19.|⒛20.|⒜(a)|⒝(b)|⒞(c)|⒟(d)|⒠(e)|⒡(f)|⒢(g)|⒣(h)|⒤(i)|⒥(j)|⒦(k)|⒧(l)|⒨(m)|",
    "⒩(n)|⒪(o)|⒫(p)|⒬(q)|⒭(r)|⒮(s)|⒯(t)|⒰(u)|⒱(v)|⒲(w)|⒳(x)|⒴(y)|⒵(z)|⨌∫∫∫∫|⩴::=|⩵==|⩶===|",
    "⫝̸⫝\u0338|゛ \u3099|゜ \u309a|ゟより|ヿコト|㈀(ᄀ)|㈁(ᄂ)|㈂(ᄃ)|㈃(ᄅ)|㈄(ᄆ)|㈅(ᄇ)|㈆(ᄉ)|㈇(ᄋ)|㈈(ᄌ)|㈉(ᄎ)|",
    "㈊(ᄏ)|㈋(ᄐ)|㈌(ᄑ)|㈍(ᄒ)|㈎(가)|㈏(나)|㈐(다)|㈑(라)|㈒(마)|㈓(바)|㈔(사)|㈕(아)|㈖(자)|㈗(차)|㈘(카)|",
    "㈙(타)|㈚(파)|㈛(하)|㈜(주)|㈠(一)|㈡(二)|㈢(三)|㈣(四)|㈤(五)|㈥(六)|㈦(七)|㈧(八)|㈨(九)|㈩(十)|㈪(月)|㈫(火)|",
    "㈬(水)|㈭(木)|㈮(金)|㈯(土)|㈰(日)|㈱(株)|㈲(有)|㈳(社)|㈴(名)|㈵(特)|㈶(財)|㈷(祝)|㈸(労)|㈹(代)|㈺(呼)|㈻(学)|㈼(監)|",
    "㈽(企)|㈾(資)|㈿(協)|㉀(祭)|㉁(休)|㉂(自)|㉃(至)|㉑21|㉒22|㉓23|㉔24|㉕25|㉖26|㉗27|㉘28|㉙29|㉚30|㉛31|㉜32|",
    "㉝33|㉞34|㉟35|㉮가|㉯나|㉰다|㉱라|㉲마|㉳바|㉴사|㉵아|㉶자|㉷차|㉸카|㉹타|㉺파|㉻하|㊱36|㊲37|㊳38|㊴39|",
    "㊵40|㊶41|㊷42|㊸43|㊹44|㊺45|㊻46|㊼47|㊽48|㊾49|㊿50|㋀1月|㋁2月|㋂3月|㋃4月|㋄5月|㋅6月|㋆7月|㋇8月|㋈9月|㋉10月|",
    "㋊11月|㋋12月|㌀アハ\u309aート|㌁アルファ|㌂アンヘ\u309aア|㌃アール|㌄イニンク\u3099|㌅インチ|㌆ウォン|㌇エスクート\u3099|㌈エーカー|",
    "㌉オンス|㌊オーム|㌋カイリ|㌌カラット|㌍カロリー|㌎カ\u3099ロン|㌏カ\u3099ンマ|㌐キ\u3099カ\u3099|㌑キ\u3099ニー|㌒キュリー|",
    "㌓キ\u3099ルタ\u3099ー|㌔キロ|㌕キロク\u3099ラム|㌖キロメートル|㌗キロワット|㌘ク\u3099ラム|㌙ク\u3099ラムトン|",
    "㌚クルセ\u3099イロ|㌛クローネ|㌜ケース|㌝コルナ|㌞コーホ\u309a|㌟サイクル|㌠サンチーム|㌡シリンク\u3099|㌢センチ|㌣セント|㌤タ\u3099ース|",
    "㌥テ\u3099シ|㌦ト\u3099ル|㌧トン|㌨ナノ|㌩ノット|㌪ハイツ|㌫ハ\u309aーセント|㌬ハ\u309aーツ|㌭ハ\u3099ーレル|",
    "㌮ヒ\u309aアストル|㌯ヒ\u309aクル|㌰ヒ\u309aコ|㌱ヒ\u3099ル|㌲ファラット\u3099|㌳フィート|㌴フ\u3099ッシェル|㌵フラン|",
    "㌶ヘクタール|㌷ヘ\u309aソ|㌸ヘ\u309aニヒ|㌹ヘルツ|㌺ヘ\u309aンス|㌻ヘ\u309aーシ\u3099|㌼ヘ\u3099ータ|㌽ホ\u309aイント|",
    "㌾ホ\u3099ルト|㌿ホン|㍀ホ\u309aント\u3099|㍁ホール|㍂ホーン|㍃マイクロ|㍄マイル|㍅マッハ|㍆マルク|㍇マンション|㍈ミクロン|㍉ミリ|",
    "㍊ミリハ\u3099ール|㍋メカ\u3099|㍌メカ\u3099トン|㍍メートル|㍎ヤート\u3099|㍏ヤール|㍐ユアン|㍑リットル|㍒リラ|㍓ルヒ\u309aー|",
    "㍔ルーフ\u3099ル|㍕レム|㍖レントケ\u3099ン|㍗ワット|㍘0点|㍙1点|㍚2点|㍛3点|㍜4点|㍝5点|㍞6点|㍟7点|㍠8点|㍡9点|㍢10点|㍣11点|",
    "㍤12点|㍥13点|㍦14点|㍧15点|㍨16点|㍩17点|㍪18点|㍫19点|㍬20点|㍭21点|㍮22点|㍯23点|㍰24点|㍱hPa|㍲da|㍳AU|㍴bar|",
    "㍵oV|㍶pc|㍻平成|㍼昭和|㍽大正|㍾明治|㍿株式会社|㎀pA|㎁nA|㎂μA|㎃mA|㎄kA|㎅KB|㎆MB|㎇GB|㎈cal|㎉kcal|㎊pF|㎋nF|㎌μF|",
    "㎍μg|㎎mg|㎏kg|㎐Hz|㎑kHz|㎒MHz|㎓GHz|㎔THz|㎕μl|㎖ml|㎗dl|㎘kl|㎙fm|㎚nm|㎛μm|㎜mm|㎝cm|㎞km|㎟mm2|㎠cm2|",
    "㎡m2|㎢km2|㎣mm3|㎤cm3|㎥m3|㎦km3|㎧m∕s|㎨m∕s2|㎩Pa|㎪kPa|㎫MPa|㎬GPa|㎭rad|㎮rad∕s|㎯rad∕s2|㎰ps|㎱ns|",
    "㎲μs|㎳ms|㎴pV|㎵nV|㎶μV|㎷mV|㎸kV|㎹MV|㎺pW|㎻nW|㎼μW|㎽mW|㎾kW|㎿MW|㏀kΩ|㏁MΩ|㏂a.m.|㏃Bq|㏄cc|㏅cd|",
    "㏆C∕kg|㏇Co.|㏈dB|㏉Gy|㏊ha|㏋HP|㏌in|㏍KK|㏎KM|㏏kt|㏐lm|㏑ln|㏒log|㏓lx|㏔mb|㏕mil|㏖mol|㏗PH|㏘p.m.|",
    "㏙PPM|㏚PR|㏛sr|㏜Sv|㏝Wb|㏠1日|㏡2日|㏢3日|㏣4日|㏤5日|㏥6日|㏦7日|㏧8日|㏨9日|㏩10日|㏪11日|㏫12日|㏬13日|㏭14日|",
    "㏮15日|㏯16日|㏰17日|㏱18日|㏲19日|㏳20日|㏴21日|㏵22日|㏶23日|㏷24日|㏸25日|㏹26日|㏺27日|㏻28日|㏼29日|㏽30日|㏾31日|",
    "ﬀff|ﬁfi|ﬂfl|ﬃffi|ﬄffl|ﬅst|ﬆst|ﬓմն|ﬔմե|ﬕմի|ﬖվն|ﬗմխ|\ufb1d\u05d9\u05b4|",
    "\ufb1f\u05f2\u05b7|\ufb2a\u05e9\u05c1|\ufb2b\u05e9\u05c2|\ufb2c\u05e9\u05bc\u05c1|",
    "\ufb2d\u05e9\u05bc\u05c2|\ufb2e\u05d0\u05b7|\ufb2f\u05d0\u05b8|\ufb30\u05d0\u05bc|",
    "\ufb31\u05d1\u05bc|\ufb32\u05d2\u05bc|\ufb33\u05d3\u05bc|\ufb34\u05d4\u05bc|",
    "\ufb35\u05d5\u05bc|\ufb36\u05d6\u05bc|\ufb38\u05d8\u05bc|\ufb39\u05d9\u05bc|",
    "\ufb3a\u05da\u05bc|\ufb3b\u05db\u05bc|\ufb3c\u05dc\u05bc|\ufb3e\u05de\u05bc|",
    "\ufb40\u05e0\u05bc|\ufb41\u05e1\u05bc|\ufb43\u05e3\u05bc|\ufb44\u05e4\u05bc|",
    "\ufb46\u05e6\u05bc|\ufb47\u05e7\u05bc|\ufb48\u05e8\u05bc|\ufb49\u05e9\u05bc|",
    "\ufb4a\u05ea\u05bc|\ufb4b\u05d5\u05b9|\ufb4c\u05d1\u05bf|\ufb4d\u05db\u05bf|",
    "\ufb4e\u05e4\u05bf|\ufb4f\u05d0\u05dc|\ufba4\u06d5\u0654|\ufba5\u06d5\u0654|",
    "\ufbb0\u06d2\u0654|\ufbb1\u06d2\u0654|\ufbdd\u06c7\u0674|\ufbea\u064a\u0654\u0627|",
    "\ufbeb\u064a\u0654\u0627|\ufbec\u064a\u0654\u06d5|\ufbed\u064a\u0654\u06d5|",
    "\ufbee\u064a\u0654\u0648|\ufbef\u064a\u0654\u0648|\ufbf0\u064a\u0654\u06c7|",
    "\ufbf1\u064a\u0654\u06c7|\ufbf2\u064a\u0654\u06c6|\ufbf3\u064a\u0654\u06c6|",
    "\ufbf4\u064a\u0654\u06c8|\ufbf5\u064a\u0654\u06c8|\ufbf6\u064a\u0654\u06d0|",
    "\ufbf7\u064a\u0654\u06d0|\ufbf8\u064a\u0654\u06d0|\ufbf9\u064a\u0654\u0649|",
    "\ufbfa\u064a\u0654\u0649|\ufbfb\u064a\u0654\u0649|\ufc00\u064a\u0654\u062c|",
    "\ufc01\u064a\u0654\u062d|\ufc02\u064a\u0654\u0645|\ufc03\u064a\u0654\u0649|",
    "\ufc04\u064a\u0654\u064a|\ufc05\u0628\u062c|\ufc06\u0628\u062d|\ufc07\u0628\u062e|",
    "\ufc08\u0628\u0645|\ufc09\u0628\u0649|\ufc0a\u0628\u064a|\ufc0b\u062a\u062c|",
    "\ufc0c\u062a\u062d|\ufc0d\u062a\u062e|\ufc0e\u062a\u0645|\ufc0f\u062a\u0649|",
    "\ufc10\u062a\u064a|\ufc11\u062b\u062c|\ufc12\u062b\u0645|\ufc13\u062b\u0649|",
    "\ufc14\u062b\u064a|\ufc15\u062c\u062d|\ufc16\u062c\u0645|\ufc17\u062d\u062c|",
    "\ufc18\u062d\u0645|\ufc19\u062e\u062c|\ufc1a\u062e\u062d|\ufc1b\u062e\u0645|",
    "\ufc1c\u0633\u062c|\ufc1d\u0633\u062d|\ufc1e\u0633\u062e|\ufc1f\u0633\u0645|",
    "\ufc20\u0635\u062d|\ufc21\u0635\u0645|\ufc22\u0636\u062c|\ufc23\u0636\u062d|",
    "\ufc24\u0636\u062e|\ufc25\u0636\u0645|\ufc26\u0637\u062d|\ufc27\u0637\u0645|",
    "\ufc28\u0638\u0645|\ufc29\u0639\u062c|\ufc2a\u0639\u0645|\ufc2b\u063a\u062c|",
    "\ufc2c\u063a\u0645|\ufc2d\u0641\u062c|\ufc2e\u0641\u062d|\ufc2f\u0641\u062e|",
    "\ufc30\u0641\u0645|\ufc31\u0641\u0649|\ufc32\u0641\u064a|\ufc33\u0642\u062d|",
    "\ufc34\u0642\u0645|\ufc35\u0642\u0649|\ufc36\u0642\u064a|\ufc37\u0643\u0627|",
    "\ufc38\u0643\u062c|\ufc39\u0643\u062d|\ufc3a\u0643\u062e|\ufc3b\u0643\u0644|",
    "\ufc3c\u0643\u0645|\ufc3d\u0643\u0649|\ufc3e\u0643\u064a|\ufc3f\u0644\u062c|",
    "\ufc40\u0644\u062d|\ufc41\u0644\u062e|\ufc42\u0644\u0645|\ufc43\u0644\u0649|",
    "\ufc44\u0644\u064a|\ufc45\u0645\u062c|\ufc46\u0645\u062d|\ufc47\u0645\u062e|",
    "\ufc48\u0645\u0645|\ufc49\u0645\u0649|\ufc4a\u0645\u064a|\ufc4b\u0646\u062c|",
    "\ufc4c\u0646\u062d|\ufc4d\u0646\u062e|\ufc4e\u0646\u0645|\ufc4f\u0646\u0649|",
    "\ufc50\u0646\u064a|\ufc51\u0647\u062c|\ufc52\u0647\u0645|\ufc53\u0647\u0649|",
    "\ufc54\u0647\u064a|\ufc55\u064a\u062c|\ufc56\u064a\u062d|\ufc57\u064a\u062e|",
    "\ufc58\u064a\u0645|\ufc59\u064a\u0649|\ufc5a\u064a\u064a|\ufc5b\u0630\u0670|",
    "\ufc5c\u0631\u0670|\ufc5d\u0649\u0670|\ufc5e \u064c\u0651|\ufc5f \u064d\u0651|",
    "\ufc60 \u064e\u0651|\ufc61 \u064f\u0651|\ufc62 \u0650\u0651|\ufc63 \u0651\u0670|",
    "\ufc64\u064a\u0654\u0631|\ufc65\u064a\u0654\u0632|\ufc66\u064a\u0654\u0645|",
    "\ufc67\u064a\u0654\u0646|\ufc68\u064a\u0654\u0649|\ufc69\u064a\u0654\u064a|",
    "\ufc6a\u0628\u0631|\ufc6b\u0628\u0632|\ufc6c\u0628\u0645|\ufc6d\u0628\u0646|",
    "\ufc6e\u0628\u0649|\ufc6f\u0628\u064a|\ufc70\u062a\u0631|\ufc71\u062a\u0632|",
    "\ufc72\u062a\u0645|\ufc73\u062a\u0646|\ufc74\u062a\u0649|\ufc75\u062a\u064a|",
    "\ufc76\u062b\u0631|\ufc77\u062b\u0632|\ufc78\u062b\u0645|\ufc79\u062b\u0646|",
    "\ufc7a\u062b\u0649|\ufc7b\u062b\u064a|\ufc7c\u0641\u0649|\ufc7d\u0641\u064a|",
    "\ufc7e\u0642\u0649|\ufc7f\u0642\u064a|\ufc80\u0643\u0627|\ufc81\u0643\u0644|",
    "\ufc82\u0643\u0645|\ufc83\u0643\u0649|\ufc84\u0643\u064a|\ufc85\u0644\u0645|",
    "\ufc86\u0644\u0649|\ufc87\u0644\u064a|\ufc88\u0645\u0627|\ufc89\u0645\u0645|",
    "\ufc8a\u0646\u0631|\ufc8b\u0646\u0632|\ufc8c\u0646\u0645|\ufc8d\u0646\u0646|",
    "\ufc8e\u0646\u0649|\ufc8f\u0646\u064a|\ufc90\u0649\u0670|\ufc91\u064a\u0631|",
    "\ufc92\u064a\u0632|\ufc93\u064a\u0645|\ufc94\u064a\u0646|\ufc95\u064a\u0649|",
    "\ufc96\u064a\u064a|\ufc97\u064a\u0654\u062c|\ufc98\u064a\u0654\u062d|",
    "\ufc99\u064a\u0654\u062e|\ufc9a\u064a\u0654\u0645|\ufc9b\u064a\u0654\u0647|",
    "\ufc9c\u0628\u062c|\ufc9d\u0628\u062d|\ufc9e\u0628\u062e|\ufc9f\u0628\u0645|",
    "\ufca0\u0628\u0647|\ufca1\u062a\u062c|\ufca2\u062a\u062d|\ufca3\u062a\u062e|",
    "\ufca4\u062a\u0645|\ufca5\u062a\u0647|\ufca6\u062b\u0645|\ufca7\u062c\u062d|",
    "\ufca8\u062c\u0645|\ufca9\u062d\u062c|\ufcaa\u062d\u0645|\ufcab\u062e\u062c|",
    "\ufcac\u062e\u0645|\ufcad\u0633\u062c|\ufcae\u0633\u062d|\ufcaf\u0633\u062e|",
    "\ufcb0\u0633\u0645|\ufcb1\u0635\u062d|\ufcb2\u0635\u062e|\ufcb3\u0635\u0645|",
    "\ufcb4\u0636\u062c|\ufcb5\u0636\u062d|\ufcb6\u0636\u062e|\ufcb7\u0636\u0645|",
    "\ufcb8\u0637\u062d|\ufcb9\u0638\u0645|\ufcba\u0639\u062c|\ufcbb\u0639\u0645|",
    "\ufcbc\u063a\u062c|\ufcbd\u063a\u0645|\ufcbe\u0641\u062c|\ufcbf\u0641\u062d|",
    "\ufcc0\u0641\u062e|\ufcc1\u0641\u0645|\ufcc2\u0642\u062d|\ufcc3\u0642\u0645|",
    "\ufcc4\u0643\u062c|\ufcc5\u0643\u062d|\ufcc6\u0643\u062e|\ufcc7\u0643\u0644|",
    "\ufcc8\u0643\u0645|\ufcc9\u0644\u062c|\ufcca\u0644\u062d|\ufccb\u0644\u062e|",
    "\ufccc\u0644\u0645|\ufccd\u0644\u0647|\ufcce\u0645\u062c|\ufccf\u0645\u062d|",
    "\ufcd0\u0645\u062e|\ufcd1\u0645\u0645|\ufcd2\u0646\u062c|\ufcd3\u0646\u062d|",
    "\ufcd4\u0646\u062e|\ufcd5\u0646\u0645|\ufcd6\u0646\u0647|\ufcd7\u0647\u062c|",
    "\ufcd8\u0647\u0645|\ufcd9\u0647\u0670|\ufcda\u064a\u062c|\ufcdb\u064a\u062d|",
    "\ufcdc\u064a\u062e|\ufcdd\u064a\u0645|\ufcde\u064a\u0647|\ufcdf\u064a\u0654\u0645|",
    "\ufce0\u064a\u0654\u0647|\ufce1\u0628\u0645|\ufce2\u0628\u0647|\ufce3\u062a\u0645|",
    "\ufce4\u062a\u0647|\ufce5\u062b\u0645|\ufce6\u062b\u0647|\ufce7\u0633\u0645|",
    "\ufce8\u0633\u0647|\ufce9\u0634\u0645|\ufcea\u0634\u0647|\ufceb\u0643\u0644|",
    "\ufcec\u0643\u0645|\ufced\u0644\u0645|\ufcee\u0646\u0645|\ufcef\u0646\u0647|",
    "\ufcf0\u064a\u0645|\ufcf1\u064a\u0647|\ufcf2\u0640\u064e\u0651|",
    "\ufcf3\u0640\u064f\u0651|\ufcf4\u0640\u0650\u0651|\ufcf5\u0637\u0649|",
    "\ufcf6\u0637\u064a|\ufcf7\u0639\u0649|\ufcf8\u0639\u064a|\ufcf9\u063a\u0649|",
    "\ufcfa\u063a\u064a|\ufcfb\u0633\u0649|\ufcfc\u0633\u064a|\ufcfd\u0634\u0649|",
    "\ufcfe\u0634\u064a|\ufcff\u062d\u0649|\ufd00\u062d\u064a|\ufd01\u062c\u0649|",
    "\ufd02\u062c\u064a|\ufd03\u062e\u0649|\ufd04\u062e\u064a|\ufd05\u0635\u0649|",
    "\ufd06\u0635\u064a|\ufd07\u0636\u0649|\ufd08\u0636\u064a|\ufd09\u0634\u062c|",
    "\ufd0a\u0634\u062d|\ufd0b\u0634\u062e|\ufd0c\u0634\u0645|\ufd0d\u0634\u0631|",
    "\ufd0e\u0633\u0631|\ufd0f\u0635\u0631|\ufd10\u0636\u0631|\ufd11\u0637\u0649|",
    "\ufd12\u0637\u064a|\ufd13\u0639\u0649|\ufd14\u0639\u064a|\ufd15\u063a\u0649|",
    "\ufd16\u063a\u064a|\ufd17\u0633\u0649|\ufd18\u0633\u064a|\ufd19\u0634\u0649|",
    "\ufd1a\u0634\u064a|\ufd1b\u062d\u0649|\ufd1c\u062d\u064a|\ufd1d\u062c\u0649|",
    "\ufd1e\u062c\u064a|\ufd1f\u062e\u0649|\ufd20\u062e\u064a|\ufd21\u0635\u0649|",
    "\ufd22\u0635\u064a|\ufd23\u0636\u0649|\ufd24\u0636\u064a|\ufd25\u0634\u062c|",
    "\ufd26\u0634\u062d|\ufd27\u0634\u062e|\ufd28\u0634\u0645|\ufd29\u0634\u0631|",
    "\ufd2a\u0633\u0631|\ufd2b\u0635\u0631|\ufd2c\u0636\u0631|\ufd2d\u0634\u062c|",
    "\ufd2e\u0634\u062d|\ufd2f\u0634\u062e|\ufd30\u0634\u0645|\ufd31\u0633\u0647|",
    "\ufd32\u0634\u0647|\ufd33\u0637\u0645|\ufd34\u0633\u062c|\ufd35\u0633\u062d|",
    "\ufd36\u0633\u062e|\ufd37\u0634\u062c|\ufd38\u0634\u062d|\ufd39\u0634\u062e|",
    "\ufd3a\u0637\u0645|\ufd3b\u0638\u0645|\ufd3c\u0627\u064b|\ufd3d\u0627\u064b|",
    "\ufd50\u062a\u062c\u0645|\ufd51\u062a\u062d\u062c|\ufd52\u062a\u062d\u062c|",
    "\ufd53\u062a\u062d\u0645|\ufd54\u062a\u062e\u0645|\ufd55\u062a\u0645\u062c|",
    "\ufd56\u062a\u0645\u062d|\ufd57\u062a\u0645\u062e|\ufd58\u062c\u0645\u062d|",
    "\ufd59\u062c\u0645\u062d|\ufd5a\u062d\u0645\u064a|\ufd5b\u062d\u0645\u0649|",
    "\ufd5c\u0633\u062d\u062c|\ufd5d\u0633\u062c\u062d|\ufd5e\u0633\u062c\u0649|",
    "\ufd5f\u0633\u0645\u062d|\ufd60\u0633\u0645\u062d|\ufd61\u0633\u0645\u062c|",
    "\ufd62\u0633\u0645\u0645|\ufd63\u0633\u0645\u0645|\ufd64\u0635\u062d\u062d|",
    "\ufd65\u0635\u062d\u062d|\ufd66\u0635\u0645\u0645|\ufd67\u0634\u062d\u0645|",
    "\ufd68\u0634\u062d\u0645|\ufd69\u0634\u062c\u064a|\ufd6a\u0634\u0645\u062e|",
    "\ufd6b\u0634\u0645\u062e|\ufd6c\u0634\u0645\u0645|\ufd6d\u0634\u0645\u0645|",
    "\ufd6e\u0636\u062d\u0649|\ufd6f\u0636\u062e\u0645|\ufd70\u0636\u062e\u0645|",
    "\ufd71\u0637\u0645\u062d|\ufd72\u0637\u0645\u062d|\ufd73\u0637\u0645\u0645|",
    "\ufd74\u0637\u0645\u064a|\ufd75\u0639\u062c\u0645|\ufd76\u0639\u0645\u0645|",
    "\ufd77\u0639\u0645\u0645|\ufd78\u0639\u0645\u0649|\ufd79\u063a\u0645\u0645|",
    "\ufd7a\u063a\u0645\u064a|\ufd7b\u063a\u0645\u0649|\ufd7c\u0641\u062e\u0645|",
    "\ufd7d\u0641\u062e\u0645|\ufd7e\u0642\u0645\u062d|\ufd7f\u0642\u0645\u0645|",
    "\ufd80\u0644\u062d\u0645|\ufd81\u0644\u062d\u064a|\ufd82\u0644\u062d\u0649|",
    "\ufd83\u0644\u062c\u062c|\ufd84\u0644\u062c\u062c|\ufd85\u0644\u062e\u0645|",
    "\ufd86\u0644\u062e\u0645|\ufd87\u0644\u0645\u062d|\ufd88\u0644\u0645\u062d|",
    "\ufd89\u0645\u062d\u062c|\ufd8a\u0645\u062d\u0645|\ufd8b\u0645\u062d\u064a|",
    "\ufd8c\u0645\u062c\u062d|\ufd8d\u0645\u062c\u0645|\ufd8e\u0645\u062e\u062c|",
    "\ufd8f\u0645\u062e\u0645|\ufd92\u0645\u062c\u062e|\ufd93\u0647\u0645\u062c|",
    "\ufd94\u0647\u0645\u0645|\ufd95\u0646\u062d\u0645|\ufd96\u0646\u062d\u0649|",
    "\ufd97\u0646\u062c\u0645|\ufd98\u0646\u062c\u0645|\ufd99\u0646\u062c\u0649|",
    "\ufd9a\u0646\u0645\u064a|\ufd9b\u0646\u0645\u0649|\ufd9c\u064a\u0645\u0645|",
    "\ufd9d\u064a\u0645\u0645|\ufd9e\u0628\u062e\u064a|\ufd9f\u062a\u062c\u064a|",
    "\ufda0\u062a\u062c\u0649|\ufda1\u062a\u062e\u064a|\ufda2\u062a\u062e\u0649|",
    "\ufda3\u062a\u0645\u064a|\ufda4\u062a\u0645\u0649|\ufda5\u062c\u0645\u064a|",
    "\ufda6\u062c\u062d\u0649|\ufda7\u062c\u0645\u0649|\ufda8\u0633\u062e\u0649|",
    "\ufda9\u0635\u062d\u064a|\ufdaa\u0634\u062d\u064a|\ufdab\u0636\u062d\u064a|",
    "\ufdac\u0644\u062c\u064a|\ufdad\u0644\u0645\u064a|\ufdae\u064a\u062d\u064a|",
    "\ufdaf\u064a\u062c\u064a|\ufdb0\u064a\u0645\u064a|\ufdb1\u0645\u0645\u064a|",
    "\ufdb2\u0642\u0645\u064a|\ufdb3\u0646\u062d\u064a|\ufdb4\u0642\u0645\u062d|",
    "\ufdb5\u0644\u062d\u0645|\ufdb6\u0639\u0645\u064a|\ufdb7\u0643\u0645\u064a|",
    "\ufdb8\u0646\u062c\u062d|\ufdb9\u0645\u062e\u064a|\ufdba\u0644\u062c\u0645|",
    "\ufdbb\u0643\u0645\u0645|\ufdbc\u0644\u062c\u0645|\ufdbd\u0646\u062c\u062d|",
    "\ufdbe\u062c\u062d\u064a|\ufdbf\u062d\u062c\u064a|\ufdc0\u0645\u062c\u064a|",
    "\ufdc1\u0641\u0645\u064a|\ufdc2\u0628\u062d\u064a|\ufdc3\u0643\u0645\u0645|",
    "\ufdc4\u0639\u062c\u0645|\ufdc5\u0635\u0645\u0645|\ufdc6\u0633\u062e\u064a|",
    "\ufdc7\u0646\u062c\u064a|\ufdf0\u0635\u0644\u06d2|\ufdf1\u0642\u0644\u06d2|",
    "\ufdf2\u0627\u0644\u0644\u0647|\ufdf3\u0627\u0643\u0628\u0631|",
    "\ufdf4\u0645\u062d\u0645\u062f|\ufdf5\u0635\u0644\u0639\u0645|",
    "\ufdf6\u0631\u0633\u0648\u0644|\ufdf7\u0639\u0644\u064a\u0647|",
    "\ufdf8\u0648\u0633\u0644\u0645|\ufdf9\u0635\u0644\u0649|",
    "\ufdfa\u0635\u0644\u0649 \u0627\u0644\u0644\u0647 \u0639\u0644\u064a\u0647 \u0648\u0633\u0644\u0645|",
    "\ufdfb\u062c\u0644 \u062c\u0644\u0627\u0644\u0647|\ufdfc\u0631\u06cc\u0627\u0644|︰..|",
    "﹉ \u0305|﹊ \u0305|﹋ \u0305|﹌ \u0305|\ufe70 \u064b|\ufe71\u0640\u064b|\ufe72 \u064c|",
    "\ufe74 \u064d|\ufe76 \u064e|\ufe77\u0640\u064e|\ufe78 \u064f|\ufe79\u0640\u064f|",
    "\ufe7a \u0650|\ufe7b\u0640\u0650|\ufe7c \u0651|\ufe7d\u0640\u0651|\ufe7e \u0652|",
    "\ufe7f\u0640\u0652|\ufe81\u0627\u0653|\ufe82\u0627\u0653|\ufe83\u0627\u0654|",
    "\ufe84\u0627\u0654|\ufe85\u0648\u0654|\ufe86\u0648\u0654|\ufe87\u0627\u0655|",
    "\ufe88\u0627\u0655|\ufe89\u064a\u0654|\ufe8a\u064a\u0654|\ufe8b\u064a\u0654|",
    "\ufe8c\u064a\u0654|\ufef5\u0644\u0627\u0653|\ufef6\u0644\u0627\u0653|",
    "\ufef7\u0644\u0627\u0654|\ufef8\u0644\u0627\u0654|\ufef9\u0644\u0627\u0655|",
    "\ufefa\u0644\u0627\u0655|\ufefb\u0644\u0627|\ufefc\u0644\u0627|￣ \u0304|𝅗𝅥𝅗𝅥|𝅘𝅥𝅘𝅥|𝅘𝅥𝅮𝅘𝅥𝅮|",
    "𝅘𝅥𝅯𝅘𝅥𝅯|𝅘𝅥𝅰𝅘𝅥𝅰|𝅘𝅥𝅱𝅘𝅥𝅱|𝅘𝅥𝅲𝅘𝅥𝅲|𝆹𝅥𝆹𝅥|𝆺𝅥𝆺𝅥|𝆹𝅥𝅮𝆹𝅥𝅮|𝆺𝅥𝅮𝆺𝅥𝅮|𝆹𝅥𝅯𝆹𝅥𝅯|𝆺𝅥𝅯𝆺𝅥𝅯|"]

/-- The classes of marks, as runs of characters from a first to a last one. -/
def combiningClasses : List (Nat × Nat × Nat) :=
  [(0x300, 0x314, 230), (0x315, 0x315, 232), (0x316, 0x319, 220), (0x31A, 0x31A, 232),
    (0x31B, 0x31B, 216), (0x31C, 0x320, 220), (0x321, 0x322, 202), (0x323, 0x326, 220),
    (0x327, 0x328, 202), (0x329, 0x333, 220), (0x334, 0x338, 1), (0x339, 0x33C, 220),
    (0x33D, 0x344, 230), (0x345, 0x345, 240), (0x346, 0x346, 230), (0x347, 0x349, 220),
    (0x34A, 0x34C, 230), (0x34D, 0x34E, 220), (0x350, 0x352, 230), (0x353, 0x356, 220),
    (0x357, 0x357, 230), (0x358, 0x358, 232), (0x359, 0x35A, 220), (0x35B, 0x35B, 230),
    (0x35C, 0x35C, 233), (0x35D, 0x35E, 234), (0x35F, 0x35F, 233), (0x360, 0x361, 234),
    (0x362, 0x362, 233), (0x363, 0x36F, 230), (0x483, 0x487, 230), (0x591, 0x591, 220),
    (0x592, 0x595, 230), (0x596, 0x596, 220), (0x597, 0x599, 230), (0x59A, 0x59A, 222),
    (0x59B, 0x59B, 220), (0x59C, 0x5A1, 230), (0x5A2, 0x5A7, 220), (0x5A8, 0x5A9, 230),
    (0x5AA, 0x5AA, 220), (0x5AB, 0x5AC, 230), (0x5AD, 0x5AD, 222), (0x5AE, 0x5AE, 228),
    (0x5AF, 0x5AF, 230), (0x5B0, 0x5B0, 10), (0x5B1, 0x5B1, 11), (0x5B2, 0x5B2, 12),
    (0x5B3, 0x5B3, 13), (0x5B4, 0x5B4, 14), (0x5B5, 0x5B5, 15), (0x5B6, 0x5B6, 16),
    (0x5B7, 0x5B7, 17), (0x5B8, 0x5B8, 18), (0x5B9, 0x5BA, 19), (0x5BB, 0x5BB, 20),
    (0x5BC, 0x5BC, 21), (0x5BD, 0x5BD, 22), (0x5BF, 0x5BF, 23), (0x5C1, 0x5C1, 24),
    (0x5C2, 0x5C2, 25), (0x5C4, 0x5C4, 230), (0x5C5, 0x5C5, 220), (0x5C7, 0x5C7, 18),
    (0x610, 0x617, 230), (0x618, 0x618, 30), (0x619, 0x619, 31), (0x61A, 0x61A, 32),
    (0x64B, 0x64B, 27), (0x64C, 0x64C, 28), (0x64D, 0x64D, 29), (0x64E, 0x64E, 30),
    (0x64F, 0x64F, 31), (0x650, 0x650, 32), (0x651, 0x651, 33), (0x652, 0x652, 34),
    (0x653, 0x654, 230), (0x655, 0x656, 220), (0x657, 0x65B, 230), (0x65C, 0x65C, 220),
    (0x65D, 0x65E, 230), (0x65F, 0x65F, 220), (0x670, 0x670, 35), (0x6D6, 0x6DC, 230),
    (0x6DF, 0x6E2, 230), (0x6E3, 0x6E3, 220), (0x6E4, 0x6E4, 230), (0x6E7, 0x6E8, 230),
    (0x6EA, 0x6EA, 220), (0x6EB, 0x6EC, 230), (0x6ED, 0x6ED, 220), (0x711, 0x711, 36),
    (0x730, 0x730, 230), (0x731, 0x731, 220), (0x732, 0x733, 230), (0x734, 0x734, 220),
    (0x735, 0x736, 230), (0x737, 0x739, 220), (0x73A, 0x73A, 230), (0x73B, 0x73C, 220),
    (0x73D, 0x73D, 230), (0x73E, 0x73E, 220), (0x73F, 0x741, 230), (0x742, 0x742, 220),
    (0x743, 0x743, 230), (0x744, 0x744, 220), (0x745, 0x745, 230), (0x746, 0x746, 220),
    (0x747, 0x747, 230), (0x748, 0x748, 220), (0x749, 0x74A, 230), (0x7EB, 0x7F1, 230),
    (0x7F2, 0x7F2, 220), (0x7F3, 0x7F3, 230), (0x7FD, 0x7FD, 220), (0x816, 0x819, 230),
    (0x81B, 0x823, 230), (0x825, 0x827, 230), (0x829, 0x82D, 230), (0x859, 0x85B, 220),
    (0x898, 0x898, 230), (0x899, 0x89B, 220), (0x89C, 0x89F, 230), (0x8CA, 0x8CE, 230),
    (0x8CF, 0x8D3, 220), (0x8D4, 0x8E1, 230), (0x8E3, 0x8E3, 220), (0x8E4, 0x8E5, 230),
    (0x8E6, 0x8E6, 220), (0x8E7, 0x8E8, 230), (0x8E9, 0x8E9, 220), (0x8EA, 0x8EC, 230),
    (0x8ED, 0x8EF, 220), (0x8F0, 0x8F0, 27), (0x8F1, 0x8F1, 28), (0x8F2, 0x8F2, 29),
    (0x8F3, 0x8F5, 230), (0x8F6, 0x8F6, 220), (0x8F7, 0x8F8, 230), (0x8F9, 0x8FA, 220),
    (0x8FB, 0x8FF, 230), (0x93C, 0x93C, 7), (0x94D, 0x94D, 9), (0x951, 0x951, 230),
    (0x952, 0x952, 220), (0x953, 0x954, 230), (0x9BC, 0x9BC, 7), (0x9CD, 0x9CD, 9),
    (0x9FE, 0x9FE, 230), (0xA3C, 0xA3C, 7), (0xA4D, 0xA4D, 9), (0xABC, 0xABC, 7),
    (0xACD, 0xACD, 9), (0xB3C, 0xB3C, 7), (0xB4D, 0xB4D, 9), (0xBCD, 0xBCD, 9), (0xC3C, 0xC3C, 7),
    (0xC4D, 0xC4D, 9), (0xC55, 0xC55, 84), (0xC56, 0xC56, 91), (0xCBC, 0xCBC, 7),
    (0xCCD, 0xCCD, 9), (0xD3B, 0xD3C, 9), (0xD4D, 0xD4D, 9), (0xDCA, 0xDCA, 9),
    (0xE38, 0xE39, 103), (0xE3A, 0xE3A, 9), (0xE48, 0xE4B, 107), (0xEB8, 0xEB9, 118),
    (0xEBA, 0xEBA, 9), (0xEC8, 0xECB, 122), (0xF18, 0xF19, 220), (0xF35, 0xF35, 220),
    (0xF37, 0xF37, 220), (0xF39, 0xF39, 216), (0xF71, 0xF71, 129), (0xF72, 0xF72, 130),
    (0xF74, 0xF74, 132), (0xF7A, 0xF7D, 130), (0xF80, 0xF80, 130), (0xF82, 0xF83, 230),
    (0xF84, 0xF84, 9), (0xF86, 0xF87, 230), (0xFC6, 0xFC6, 220), (0x1037, 0x1037, 7),
    (0x1039, 0x103A, 9), (0x108D, 0x108D, 220), (0x135D, 0x135F, 230), (0x1714, 0x1715, 9),
    (0x1734, 0x1734, 9), (0x17D2, 0x17D2, 9), (0x17DD, 0x17DD, 230), (0x18A9, 0x18A9, 228),
    (0x1939, 0x1939, 222), (0x193A, 0x193A, 230), (0x193B, 0x193B, 220), (0x1A17, 0x1A17, 230),
    (0x1A18, 0x1A18, 220), (0x1A60, 0x1A60, 9), (0x1A75, 0x1A7C, 230), (0x1A7F, 0x1A7F, 220),
    (0x1AB0, 0x1AB4, 230), (0x1AB5, 0x1ABA, 220), (0x1ABB, 0x1ABC, 230), (0x1ABD, 0x1ABD, 220),
    (0x1ABF, 0x1AC0, 220), (0x1AC1, 0x1AC2, 230), (0x1AC3, 0x1AC4, 220), (0x1AC5, 0x1AC9, 230),
    (0x1ACA, 0x1ACA, 220), (0x1ACB, 0x1ACE, 230), (0x1B34, 0x1B34, 7), (0x1B44, 0x1B44, 9),
    (0x1B6B, 0x1B6B, 230), (0x1B6C, 0x1B6C, 220), (0x1B6D, 0x1B73, 230), (0x1BAA, 0x1BAB, 9),
    (0x1BE6, 0x1BE6, 7), (0x1BF2, 0x1BF3, 9), (0x1C37, 0x1C37, 7), (0x1CD0, 0x1CD2, 230),
    (0x1CD4, 0x1CD4, 1), (0x1CD5, 0x1CD9, 220), (0x1CDA, 0x1CDB, 230), (0x1CDC, 0x1CDF, 220),
    (0x1CE0, 0x1CE0, 230), (0x1CE2, 0x1CE8, 1), (0x1CED, 0x1CED, 220), (0x1CF4, 0x1CF4, 230),
    (0x1CF8, 0x1CF9, 230), (0x1DC0, 0x1DC1, 230), (0x1DC2, 0x1DC2, 220), (0x1DC3, 0x1DC9, 230),
    (0x1DCA, 0x1DCA, 220), (0x1DCB, 0x1DCC, 230), (0x1DCD, 0x1DCD, 234), (0x1DCE, 0x1DCE, 214),
    (0x1DCF, 0x1DCF, 220), (0x1DD0, 0x1DD0, 202), (0x1DD1, 0x1DF5, 230), (0x1DF6, 0x1DF6, 232),
    (0x1DF7, 0x1DF8, 228), (0x1DF9, 0x1DF9, 220), (0x1DFA, 0x1DFA, 218), (0x1DFB, 0x1DFB, 230),
    (0x1DFC, 0x1DFC, 233), (0x1DFD, 0x1DFD, 220), (0x1DFE, 0x1DFE, 230), (0x1DFF, 0x1DFF, 220),
    (0x20D0, 0x20D1, 230), (0x20D2, 0x20D3, 1), (0x20D4, 0x20D7, 230), (0x20D8, 0x20DA, 1),
    (0x20DB, 0x20DC, 230), (0x20E1, 0x20E1, 230), (0x20E5, 0x20E6, 1), (0x20E7, 0x20E7, 230),
    (0x20E8, 0x20E8, 220), (0x20E9, 0x20E9, 230), (0x20EA, 0x20EB, 1), (0x20EC, 0x20EF, 220),
    (0x20F0, 0x20F0, 230), (0x2CEF, 0x2CF1, 230), (0x2D7F, 0x2D7F, 9), (0x2DE0, 0x2DFF, 230),
    (0x302A, 0x302A, 218), (0x302B, 0x302B, 228), (0x302C, 0x302C, 232), (0x302D, 0x302D, 222),
    (0x302E, 0x302F, 224), (0x3099, 0x309A, 8), (0xA66F, 0xA66F, 230), (0xA674, 0xA67D, 230),
    (0xA69E, 0xA69F, 230), (0xA6F0, 0xA6F1, 230), (0xA806, 0xA806, 9), (0xA82C, 0xA82C, 9),
    (0xA8C4, 0xA8C4, 9), (0xA8E0, 0xA8F1, 230), (0xA92B, 0xA92D, 220), (0xA953, 0xA953, 9),
    (0xA9B3, 0xA9B3, 7), (0xA9C0, 0xA9C0, 9), (0xAAB0, 0xAAB0, 230), (0xAAB2, 0xAAB3, 230),
    (0xAAB4, 0xAAB4, 220), (0xAAB7, 0xAAB8, 230), (0xAABE, 0xAABF, 230), (0xAAC1, 0xAAC1, 230),
    (0xAAF6, 0xAAF6, 9), (0xABED, 0xABED, 9), (0xFB1E, 0xFB1E, 26), (0xFE20, 0xFE26, 230),
    (0xFE27, 0xFE2D, 220), (0xFE2E, 0xFE2F, 230), (0x101FD, 0x101FD, 220),
    (0x102E0, 0x102E0, 220), (0x10376, 0x1037A, 230), (0x10A0D, 0x10A0D, 220),
    (0x10A0F, 0x10A0F, 230), (0x10A38, 0x10A38, 230), (0x10A39, 0x10A39, 1),
    (0x10A3A, 0x10A3A, 220), (0x10A3F, 0x10A3F, 9), (0x10AE5, 0x10AE5, 230),
    (0x10AE6, 0x10AE6, 220), (0x10D24, 0x10D27, 230), (0x10EAB, 0x10EAC, 230),
    (0x10F46, 0x10F47, 220), (0x10F48, 0x10F4A, 230), (0x10F4B, 0x10F4B, 220),
    (0x10F4C, 0x10F4C, 230), (0x10F4D, 0x10F50, 220), (0x10F82, 0x10F82, 230),
    (0x10F83, 0x10F83, 220), (0x10F84, 0x10F84, 230), (0x10F85, 0x10F85, 220),
    (0x11046, 0x11046, 9), (0x11070, 0x11070, 9), (0x1107F, 0x1107F, 9), (0x110B9, 0x110B9, 9),
    (0x110BA, 0x110BA, 7), (0x11100, 0x11102, 230), (0x11133, 0x11134, 9), (0x11173, 0x11173, 7),
    (0x111C0, 0x111C0, 9), (0x111CA, 0x111CA, 7), (0x11235, 0x11235, 9), (0x11236, 0x11236, 7),
    (0x112E9, 0x112E9, 7), (0x112EA, 0x112EA, 9), (0x1133B, 0x1133C, 7), (0x1134D, 0x1134D, 9),
    (0x11366, 0x1136C, 230), (0x11370, 0x11374, 230), (0x11442, 0x11442, 9),
    (0x11446, 0x11446, 7), (0x1145E, 0x1145E, 230), (0x114C2, 0x114C2, 9), (0x114C3, 0x114C3, 7),
    (0x115BF, 0x115BF, 9), (0x115C0, 0x115C0, 7), (0x1163F, 0x1163F, 9), (0x116B6, 0x116B6, 9),
    (0x116B7, 0x116B7, 7), (0x1172B, 0x1172B, 9), (0x11839, 0x11839, 9), (0x1183A, 0x1183A, 7),
    (0x1193D, 0x1193E, 9), (0x11943, 0x11943, 7), (0x119E0, 0x119E0, 9), (0x11A34, 0x11A34, 9),
    (0x11A47, 0x11A47, 9), (0x11A99, 0x11A99, 9), (0x11C3F, 0x11C3F, 9), (0x11D42, 0x11D42, 7),
    (0x11D44, 0x11D45, 9), (0x11D97, 0x11D97, 9), (0x16AF0, 0x16AF4, 1), (0x16B30, 0x16B36, 230),
    (0x16FF0, 0x16FF1, 6), (0x1BC9E, 0x1BC9E, 1), (0x1D165, 0x1D166, 216), (0x1D167, 0x1D169, 1),
    (0x1D16D, 0x1D16D, 226), (0x1D16E, 0x1D172, 216), (0x1D17B, 0x1D182, 220),
    (0x1D185, 0x1D189, 230), (0x1D18A, 0x1D18B, 220), (0x1D1AA, 0x1D1AD, 230),
    (0x1D242, 0x1D244, 230), (0x1E000, 0x1E006, 230), (0x1E008, 0x1E018, 230),
    (0x1E01B, 0x1E021, 230), (0x1E023, 0x1E024, 230), (0x1E026, 0x1E02A, 230),
    (0x1E130, 0x1E136, 230), (0x1E2AE, 0x1E2AE, 230), (0x1E2EC, 0x1E2EF, 230),
    (0x1E8D0, 0x1E8D6, 220), (0x1E944, 0x1E949, 230), (0x1E94A, 0x1E94A, 7)]

end AlertRelay.Text.Composition
