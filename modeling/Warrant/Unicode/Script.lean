import Warrant.Unicode.Property

/-! Scripts (Unicode 16) by name, as sets of characters. -/

namespace Warrant.Unicode

namespace Script

/-- Every script with its names, in small letters and without separators, and its table. -/
def tables : List (List String × List String) :=
  [(["adlam", "adlm"],
    ["A125184B76A4B10A4B2"]),
   (["ahom"],
    ["A71424B27A2B15A4B23"]),
   (["anatolianhieroglyphs", "hluw"],
    ["A82944B583"]),
   (["arabic", "arab"],
    ["A1536B5A1B6A1B14A1B3A1B32A1B10A11B26A1B108A1B34A80B48A240B31A1B2A5B75A1B29A62032B115A16B3",
     "63A2B80A2B54A7B1A32B16A112B5A1B135A3939B31A67B3A55B4A57088B4A1B27A1B2A1B1A2B1A1B10A1B4A1B",
     "1A1B1A6B1A4B1A1B1A1B1A1B3A1B2A1B1A2B1A1B1A1B1A1B1A1B1A1B2A1B1A2B4A1B7A1B4A1B4A1B1A1B10A1B",
     "17A5B3A1B5A1B17A52B2"]),
   (["armenian", "armn"],
    ["A1329B38A2B50A2B3A62851B5"]),
   (["avestan", "avst"],
    ["A68352B54A3B7"]),
   (["balinese", "bali"],
    ["A6912B77A1B50"]),
   (["bamum", "bamu"],
    ["A42656B88A49416B569"]),
   (["bassavah", "bass"],
    ["A92880B30A2B6"]),
   (["batak", "batk"],
    ["A7104B52A8B4"]),
   (["bengali", "beng"],
    ["A2432B4A1B8A2B2A2B22A1B7A1B1A3B4A2B9A2B2A2B4A8B1A4B2A1B5A2B25"]),
   (["bhaiksuki", "bhks"],
    ["A72704B9A1B45A1B14A10B29"]),
   (["bopomofo", "bopo"],
    ["A746B2A11801B43A112B32"]),
   (["brahmi", "brah"],
    ["A69632B78A4B36A9B1"]),
   (["braille", "brai"],
    ["A10240B256"]),
   (["buginese", "bugi"],
    ["A6656B28A2B2"]),
   (["buhid", "buhd"],
    ["A5952B20"]),
   (["canadianaboriginal", "cans"],
    ["A5120B640A560B70A65978B16"]),
   (["carian", "cari"],
    ["A66208B49"]),
   (["caucasianalbanian", "aghb"],
    ["A66864B52A11B1"]),
   (["chakma", "cakm"],
    ["A69888B53A1B18"]),
   (["cham"],
    ["A43520B55A9B14A2B10A2B4"]),
   (["cherokee", "cher"],
    ["A5024B86A2B6A38770B80"]),
   (["chorasmian", "chrs"],
    ["A69552B28"]),
   (["common", "zyyy"],
    ["B65A26B6A26B47A1B15A1B5A23B1A31B1A449B39A5B5A2B20A116B1A9B1A6B1A1B1A637B1A6B1A14B1A3B1A32",
     "B1A156B1A516B1A129B2A1241B1A405B4A290B1A1519B3A71B2A203B2A1B1A1229B1A13B1A7B4A1B6A1B3A2B1",
     "A773B12A2B87A1B11A3B11A1B15A17B33A63B38A1B3A2B6A1B27A1B17A41B3A4B666A22B11A21B928A256B628",
     "A2B32A1B105A512B94A402B21A1B1A1B25A15B8A4B4A91B2A3B1A90B2A147B16A32B38A9B1A48B64A31B81A47",
     "B1A88B168A6592B64A22784B34A102B3A165B10A244B1A160B1A395B1A14B2A20946B2A208B10A22B35A1B19A",
     "1B4A147B1A1B32A26B6A26B11A10B1A45B2A64B7A1B7A10B5A258B3A4B45A3B9A80B13A51B45A228B27A47524",
     "B4A3932B250A6B436A156B116A60B246A10B39A2B62A3B17A8B2A7B30A4B61A213B20A12B20A12B87A9B25A13",
     "5B85A1B71A1B2A2B1A2B2A2B4A1B12A1B1A1B7A1B65A1B4A2B8A1B7A1B28A1B4A1B5A1B1A3B7A1B340A2B292A",
     "2B50A5233B68A76B61A706B44A4B100A12B15A2B15A1B15A1B37A10B174A56B26A1B2A13B44A4B9A7B2A14B6A",
     "154B984A4B17A3B13A3B119A4B95A6B12A4B1A15B12A4B56A8B10A6B40A8B30A2B12A4B2A62B340A12B14A2B1",
     "3A3B10A5B56A7B15A2B11A6B9A7B147A1B102A787463B1A30B96"]),
   (["coptic", "copt", "qaac"],
    ["A994B14A10384B116A5B7"]),
   (["cuneiform", "xsux"],
    ["A73728B922A102B111A1B5A11B196"]),
   (["cypriot", "cprt"],
    ["A67584B6A2B1A1B44A1B2A3B1A2B1"]),
   (["cyprominoan", "cpmn"],
    ["A77712B99"]),
   (["cyrillic", "cyrl"],
    ["A1024B133A2B169A5968B11A160B1A76B1A4199B32A30784B96A22414B2A57856B62A33B1"]),
   (["deseret", "dsrt"],
    ["A66560B80"]),
   (["devanagari", "deva"],
    ["A2304B81A4B15A2B26A40800B32A29184B10"]),
   (["divesakuru", "diak"],
    ["A71936B7A2B1A2B8A1B2A1B30A1B2A2B12A9B10"]),
   (["dogra", "dogr"],
    ["A71680B60"]),
   (["duployan", "dupl"],
    ["A113664B107A5B13A3B9A7B10A2B4"]),
   (["egyptianhieroglyphs", "egyp"],
    ["A77824B1110A10B3995"]),
   (["elbasan", "elba"],
    ["A66816B40"]),
   (["elymaic", "elym"],
    ["A69600B23"]),
   (["ethiopic", "ethi"],
    ["A4608B73A1B4A2B7A1B1A1B4A2B41A1B4A2B33A1B4A2B7A1B1A1B4A2B15A1B57A1B4A2B67A2B32A3B26A6630B",
     "23A9B7A1B7A1B7A1B7A1B7A1B7A1B7A1B7A32034B6A2B6A2B6A9B7A1B7A81073B7A1B4A1B2A1B15"]),
   (["garay", "gara"],
    ["A68928B38A3B29A8B2"]),
   (["georgian", "geor"],
    ["A4256B38A1B1A5B1A2B43A1B4A2960B43A2B3A4160B38A1B1A5B1"]),
   (["glagolitic", "glag"],
    ["A11264B96A111520B7A1B17A2B7A1B2A1B5"]),
   (["gothic", "goth"],
    ["A66352B27"]),
   (["grantha", "gran"],
    ["A70400B4A1B8A2B2A2B22A1B7A1B2A1B5A2B9A2B2A2B3A2B1A6B1A5B7A2B7A3B5"]),
   (["greek", "grek"],
    ["A880B4A1B3A2B4A1B1A4B1A1B1A1B3A1B1A1B20A1B63A14B16A6438B5A50B5A4B5A84B1A320B22A2B6A2B38A2",
     "B6A2B8A1B1A1B1A1B1A1B31A2B53A1B15A1B14A2B6A1B19A2B3A1B9A295B1A35390B1A21978B79A17B1A53343",
     "B70"]),
   (["gujarati", "gujr"],
    ["A2689B3A1B9A1B3A1B22A1B7A1B2A1B5A2B10A1B3A1B3A2B1A15B4A2B12A7B7"]),
   (["gunjalagondi", "gong"],
    ["A73056B6A1B2A1B37A1B2A1B6A7B10"]),
   (["gurmukhi", "guru"],
    ["A2561B3A1B6A4B2A2B22A1B7A1B2A1B2A1B2A2B1A1B5A4B2A2B3A3B1A7B4A1B1A7B17"]),
   (["gurungkhema", "gukh"],
    ["A90368B58"]),
   (["han", "hani"],
    ["A11904B26A1B89A12B214A47B1A1B1A25B9A14B4A964B6592A64B20992A22784B366A2B106A29960B2A12B2A3",
     "6878B42720A32B4154A6B222A2B5762A14B7473A15B622A2466B542A1506B4939A5B4192"]),
   (["hangul", "hang"],
    ["A4352B256A7726B2A257B94A113B31A65B31A30433B29A643B11172A12B23A4B49A10148B31A3B6A2B6A2B6A2",
     "B3"]),
   (["hanifirohingya", "rohg"],
    ["A68864B40A8B10"]),
   (["hanunoo", "hano"],
    ["A5920B21"]),
   (["hatran", "hatr"],
    ["A67808B19A1B2A5B5"]),
   (["hebrew", "hebr"],
    ["A1425B55A8B27A4B6A62760B26A1B5A1B1A1B2A1B2A1B10"]),
   (["hiragana", "hira"],
    ["A12353B86A6B3A98145B287A18B1A29B3A16557B1"]),
   (["imperialaramaic", "armi"],
    ["A67648B22A1B9"]),
   (["inherited", "zinh", "qaai"],
    ["A768B112A277B2A452B11A26B1A736B4A4443B31A513B3A1B13A1B7A4B1A6B1A3B2A198B64A524B2A194B33A3",
     "897B4A107B2A52581B16A16B14A975B1A226B1A4186B1A48068B46A2B23A544B3A17B8A2B7A30B4A798546B24",
     "0"]),
   (["inscriptionalpahlavi", "phli"],
    ["A68448B19A5B8"]),
   (["inscriptionalparthian", "prti"],
    ["A68416B22A2B8"]),
   (["javanese", "java"],
    ["A43392B78A2B10A4B2"]),
   (["kaithi", "kthi"],
    ["A69760B67A10B1"]),
   (["kannada", "knda"],
    ["A3200B13A1B3A1B23A1B10A1B5A2B9A1B3A1B4A7B2A6B2A1B4A2B10A1B3"]),
   (["katakana", "kana"],
    ["A12449B90A2B3A240B16A208B47A1B88A52238B10A1B45A45138B4A1B7A1B2A1B1A287B3A50B1A14B4"]),
   (["kawi"],
    ["A73472B17A1B41A3B29"]),
   (["kayahli", "kali"],
    ["A43264B46A1B1"]),
   (["kharoshthi", "khar"],
    ["A68096B4A1B2A5B8A1B3A1B29A2B3A4B10A7B9"]),
   (["khitansmallscript", "kits"],
    ["A94180B1A6939B470A41B1"]),
   (["khmer", "khmr"],
    ["A6016B94A2B10A6B10A486B32"]),
   (["khojki", "khoj"],
    ["A70144B18A1B47"]),
   (["khudawadi", "sind"],
    ["A70320B59A5B10"]),
   (["kiratrai", "krai"],
    ["A93504B58"]),
   (["lao", "laoo"],
    ["A3713B2A1B1A1B5A1B24A1B1A1B23A2B5A1B1A1B7A1B10A2B4"]),
   (["latin", "latn"],
    ["A65B26A6B26A47B1A15B1A5B23A1B31A1B449A39B5A6683B38A6B49A5B4A5B13A1B70A65B256A369B1A13B1A1",
     "6B13A141B2A6B1A27B1A17B41A2775B32A31394B102A3B67A2B2A1B1A1B8A21B14A816B43A1B9A1B4A20374B7",
     "A1050B26A6B26A2085B6A1B42A1B9A55109B31A6B6"]),
   (["lepcha", "lepc"],
    ["A7168B56A3B15A3B3"]),
   (["limbu", "limb"],
    ["A6400B31A1B12A4B12A4B1A3B12"]),
   (["lineara", "lina"],
    ["A67072B311A9B22A10B8"]),
   (["linearb", "linb"],
    ["A65536B12A1B26A1B19A1B2A1B15A2B14A34B123"]),
   (["lisu"],
    ["A42192B48A31408B1"]),
   (["lycian", "lyci"],
    ["A66176B29"]),
   (["lydian", "lydi"],
    ["A67872B26A5B1"]),
   (["mahajani", "mahj"],
    ["A69968B39"]),
   (["makasar", "maka"],
    ["A73440B25"]),
   (["malayalam", "mlym"],
    ["A3328B13A1B3A1B51A1B3A1B6A4B16A2B26"]),
   (["mandaic", "mand"],
    ["A2112B28A2B1"]),
   (["manichaean", "mani"],
    ["A68288B39A4B12"]),
   (["marchen", "marc"],
    ["A72816B32A2B22A1B14"]),
   (["masaramgondi", "gonm"],
    ["A72960B7A1B2A1B44A3B1A1B2A1B9A8B10"]),
   (["medefaidrin", "medf"],
    ["A93760B91"]),
   (["meeteimayek", "mtei"],
    ["A43744B23A201B46A2B10"]),
   (["mendekikakui", "mend"],
    ["A124928B197A2B16"]),
   (["meroiticcursive", "merc"],
    ["A68000B24A4B20A2B46"]),
   (["meroitichieroglyphs", "mero"],
    ["A67968B32"]),
   (["miao", "plrd"],
    ["A93952B75A4B57A7B17"]),
   (["modi"],
    ["A71168B69A11B10"]),
   (["mongolian", "mong"],
    ["A6144B2A2B1A1B20A6B89A7B43A64949B13"]),
   (["mro", "mroo"],
    ["A92736B31A1B10A4B2"]),
   (["multani", "mult"],
    ["A70272B7A1B1A1B4A1B15A1B11"]),
   (["myanmar", "mymr"],
    ["A4096B160A39232B31A97B32A27728B20"]),
   (["nabataean", "nbat"],
    ["A67712B31A8B9"]),
   (["nagmundari", "nagm"],
    ["A124112B42"]),
   (["nandinagari", "nand"],
    ["A72096B8A2B46A2B11"]),
   (["newa"],
    ["A70656B92A1B5"]),
   (["newtailue", "talu"],
    ["A6528B44A4B26A6B11A3B2"]),
   (["nko", "nkoo"],
    ["A1984B59A2B3"]),
   (["nushu", "nshu"],
    ["A94177B1A16782B396"]),
   (["nyiakengpuachuehmong", "hmnp"],
    ["A123136B45A3B14A2B10A4B2"]),
   (["ogham", "ogam"],
    ["A5760B29"]),
   (["olchiki", "olck"],
    ["A7248B48"]),
   (["oldhungarian", "hung"],
    ["A68736B51A13B51A7B6"]),
   (["olditalic", "ital"],
    ["A66304B36A9B3"]),
   (["oldnortharabian", "narb"],
    ["A68224B32"]),
   (["oldpermic", "perm"],
    ["A66384B43"]),
   (["oldpersian", "xpeo"],
    ["A66464B36A4B14"]),
   (["oldsogdian", "sogo"],
    ["A69376B40"]),
   (["oldsoutharabian", "sarb"],
    ["A68192B32"]),
   (["oldturkic", "orkh"],
    ["A68608B73"]),
   (["olduyghur", "ougr"],
    ["A69488B26"]),
   (["olonal", "onao"],
    ["A124368B43A4B1"]),
   (["oriya", "orya"],
    ["A2817B3A1B8A2B2A2B22A1B7A1B2A1B5A2B9A2B2A2B3A7B3A4B2A1B5A2B18"]),
   (["osage", "osge"],
    ["A66736B36A4B36"]),
   (["osmanya", "osma"],
    ["A66688B30A2B10"]),
   (["pahawhhmong", "hmng"],
    ["A92928B70A10B10A1B7A1B21A5B19"]),
   (["palmyrene", "palm"],
    ["A67680B32"]),
   (["paucinhau", "pauc"],
    ["A72384B57"]),
   (["phagspa", "phag"],
    ["A43072B56"]),
   (["phoenician", "phnx"],
    ["A67840B28A3B1"]),
   (["psalterpahlavi", "phlp"],
    ["A68480B18A7B4A12B7"]),
   (["rejang", "rjng"],
    ["A43312B36A11B1"]),
   (["runic", "runr"],
    ["A5792B75A3B11"]),
   (["samaritan", "samr"],
    ["A2048B46A2B15"]),
   (["saurashtra", "saur"],
    ["A43136B70A8B12"]),
   (["sharada", "shrd"],
    ["A70016B96"]),
   (["shavian", "shaw"],
    ["A66640B48"]),
   (["siddham", "sidd"],
    ["A71040B54A2B38"]),
   (["signwriting", "sgnw"],
    ["A120832B652A15B5A1B15"]),
   (["sinhala", "sinh"],
    ["A3457B3A1B18A3B24A1B9A1B1A2B7A3B1A4B6A1B1A1B8A6B10A2B3A66540B20"]),
   (["sogdian", "sogd"],
    ["A69424B42"]),
   (["sorasompeng", "sora"],
    ["A69840B25A7B10"]),
   (["soyombo", "soyo"],
    ["A72272B83"]),
   (["sundanese", "sund"],
    ["A7040B64A256B8"]),
   (["sunuwar", "sunu"],
    ["A72640B34A14B10"]),
   (["sylotinagri", "sylo"],
    ["A43008B45"]),
   (["syriac", "syrc"],
    ["A1792B14A1B60A2B3A272B11"]),
   (["tagalog", "tglg"],
    ["A5888B22A9B1"]),
   (["tagbanwa", "tagb"],
    ["A5984B13A1B3A1B2"]),
   (["taile", "tale"],
    ["A6480B30A2B5"]),
   (["taitham", "lana"],
    ["A6688B63A1B29A2B11A6B10A6B14"]),
   (["taiviet", "tavt"],
    ["A43648B67A24B5"]),
   (["takri", "takr"],
    ["A71296B58A6B10"]),
   (["tamil", "taml"],
    ["A2946B2A1B6A3B3A1B4A3B2A1B1A1B2A3B2A3B3A3B12A4B5A3B3A1B4A2B1A6B1A14B21A70597B50A13B1"]),
   (["tangsa", "tnsa"],
    ["A92784B79A1B10"]),
   (["tangut", "tang"],
    ["A94176B1A31B6136A8B768A512B9"]),
   (["telugu", "telu"],
    ["A3072B13A1B3A1B23A1B16A2B9A1B3A1B4A7B2A1B3A2B1A2B4A2B10A7B9"]),
   (["thaana", "thaa"],
    ["A1920B50"]),
   (["thai"],
    ["A3585B58A5B28"]),
   (["tibetan", "tibt"],
    ["A3840B72A1B36A4B39A1B36A1B15A1B7A4B2"]),
   (["tifinagh", "tfng"],
    ["A11568B56A7B2A14B1"]),
   (["tirhuta", "tirh"],
    ["A70784B72A8B10"]),
   (["todhri", "todr"],
    ["A67008B52"]),
   (["toto"],
    ["A123536B31"]),
   (["tulutigalari", "tutg"],
    ["A70528B10A1B1A2B1A1B38A1B10A1B1A2B1A1B4A1B10A1B2A8B2"]),
   (["ugaritic", "ugar"],
    ["A66432B30A1B1"]),
   (["vai", "vaii"],
    ["A42240B300"]),
   (["vithkuqi", "vith"],
    ["A66928B11A1B15A1B7A1B2A1B11A1B15A1B7A1B2"]),
   (["wancho", "wcho"],
    ["A123584B58A5B1"]),
   (["warangciti", "wara"],
    ["A71840B83A12B1"]),
   (["yezidi", "yezi"],
    ["A69248B42A1B3A2B2"]),
   (["yi", "yiii"],
    ["A40960B1165A3B55"]),
   (["zanabazarsquare", "zanb"],
    ["A72192B72"])]

def all : List Property := tables.map fun (names, lines) => ⟨names, .ofLines lines⟩

def byName? (name : String) : Option Property := all.find? (·.names.contains name)

end Script

end Warrant.Unicode
