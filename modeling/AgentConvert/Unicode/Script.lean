import AgentConvert.Unicode.CodeSet

/-!
# Scripts

The script of a code point, and the scripts that it is used with. Most code points are used with
their own script alone; the others are listed with all that they are used with.
-/

namespace AgentConvert.Unicode

/-- A script, by its code of four letters. -/
structure Script where
  code : String
  deriving DecidableEq

namespace Script

/-- The codes of scripts, each with its name as loose matching leaves it. -/
def names : List (String × String) := [
  ("Adlm", "adlam"), ("Aghb", "caucasianalbanian"), ("Ahom", "ahom"), ("Arab", "arabic"),
  ("Armi", "imperialaramaic"), ("Armn", "armenian"), ("Avst", "avestan"), ("Bali", "balinese"),
  ("Bamu", "bamum"), ("Bass", "bassavah"), ("Batk", "batak"), ("Beng", "bengali"),
  ("Bhks", "bhaiksuki"), ("Bopo", "bopomofo"), ("Brah", "brahmi"), ("Brai", "braille"),
  ("Bugi", "buginese"), ("Buhd", "buhid"), ("Cakm", "chakma"), ("Cans", "canadianaboriginal"),
  ("Cari", "carian"), ("Cham", "cham"), ("Cher", "cherokee"), ("Chrs", "chorasmian"),
  ("Copt", "coptic"), ("Cpmn", "cyprominoan"), ("Cprt", "cypriot"), ("Cyrl", "cyrillic"),
  ("Deva", "devanagari"), ("Diak", "divesakuru"), ("Dogr", "dogra"), ("Dsrt", "deseret"),
  ("Dupl", "duployan"), ("Egyp", "egyptianhieroglyphs"), ("Elba", "elbasan"), ("Elym", "elymaic"),
  ("Ethi", "ethiopic"), ("Gara", "garay"), ("Geor", "georgian"), ("Glag", "glagolitic"),
  ("Gong", "gunjalagondi"), ("Gonm", "masaramgondi"), ("Goth", "gothic"), ("Gran", "grantha"),
  ("Grek", "greek"), ("Gujr", "gujarati"), ("Gukh", "gurungkhema"), ("Guru", "gurmukhi"),
  ("Hang", "hangul"), ("Hani", "han"), ("Hano", "hanunoo"), ("Hatr", "hatran"), ("Hebr", "hebrew"),
  ("Hira", "hiragana"), ("Hluw", "anatolianhieroglyphs"), ("Hmng", "pahawhhmong"),
  ("Hmnp", "nyiakengpuachuehmong"), ("Hrkt", "katakanaorhiragana"), ("Hung", "oldhungarian"),
  ("Ital", "olditalic"), ("Java", "javanese"), ("Kali", "kayahli"), ("Kana", "katakana"),
  ("Kawi", "kawi"), ("Khar", "kharoshthi"), ("Khmr", "khmer"), ("Khoj", "khojki"),
  ("Kits", "khitansmallscript"), ("Knda", "kannada"), ("Krai", "kiratrai"), ("Kthi", "kaithi"),
  ("Lana", "taitham"), ("Laoo", "lao"), ("Latn", "latin"), ("Lepc", "lepcha"), ("Limb", "limbu"),
  ("Lina", "lineara"), ("Linb", "linearb"), ("Lisu", "lisu"), ("Lyci", "lycian"),
  ("Lydi", "lydian"), ("Mahj", "mahajani"), ("Maka", "makasar"), ("Mand", "mandaic"),
  ("Mani", "manichaean"), ("Marc", "marchen"), ("Medf", "medefaidrin"), ("Mend", "mendekikakui"),
  ("Merc", "meroiticcursive"), ("Mero", "meroitichieroglyphs"), ("Mlym", "malayalam"),
  ("Modi", "modi"), ("Mong", "mongolian"), ("Mroo", "mro"), ("Mtei", "meeteimayek"),
  ("Mult", "multani"), ("Mymr", "myanmar"), ("Nagm", "nagmundari"), ("Nand", "nandinagari"),
  ("Narb", "oldnortharabian"), ("Nbat", "nabataean"), ("Newa", "newa"), ("Nkoo", "nko"),
  ("Nshu", "nushu"), ("Ogam", "ogham"), ("Olck", "olchiki"), ("Onao", "olonal"),
  ("Orkh", "oldturkic"), ("Orya", "oriya"), ("Osge", "osage"), ("Osma", "osmanya"),
  ("Ougr", "olduyghur"), ("Palm", "palmyrene"), ("Pauc", "paucinhau"), ("Perm", "oldpermic"),
  ("Phag", "phagspa"), ("Phli", "inscriptionalpahlavi"), ("Phlp", "psalterpahlavi"),
  ("Phnx", "phoenician"), ("Plrd", "miao"), ("Prti", "inscriptionalparthian"), ("Rjng", "rejang"),
  ("Rohg", "hanifirohingya"), ("Runr", "runic"), ("Samr", "samaritan"), ("Sarb", "oldsoutharabian"),
  ("Saur", "saurashtra"), ("Sgnw", "signwriting"), ("Shaw", "shavian"), ("Shrd", "sharada"),
  ("Sidd", "siddham"), ("Sind", "khudawadi"), ("Sinh", "sinhala"), ("Sogd", "sogdian"),
  ("Sogo", "oldsogdian"), ("Sora", "sorasompeng"), ("Soyo", "soyombo"), ("Sund", "sundanese"),
  ("Sunu", "sunuwar"), ("Sylo", "sylotinagri"), ("Syrc", "syriac"), ("Tagb", "tagbanwa"),
  ("Takr", "takri"), ("Tale", "taile"), ("Talu", "newtailue"), ("Taml", "tamil"),
  ("Tang", "tangut"), ("Tavt", "taiviet"), ("Telu", "telugu"), ("Tfng", "tifinagh"),
  ("Tglg", "tagalog"), ("Thaa", "thaana"), ("Thai", "thai"), ("Tibt", "tibetan"),
  ("Tirh", "tirhuta"), ("Tnsa", "tangsa"), ("Todr", "todhri"), ("Toto", "toto"),
  ("Tutg", "tulutigalari"), ("Ugar", "ugaritic"), ("Vaii", "vai"), ("Vith", "vithkuqi"),
  ("Wara", "warangciti"), ("Wcho", "wancho"), ("Xpeo", "oldpersian"), ("Xsux", "cuneiform"),
  ("Yezi", "yezidi"), ("Yiii", "yi"), ("Zanb", "zanabazarsquare"), ("Zinh", "inherited"),
  ("Zyyy", "common"), ("Zzzz", "unknown")]

/-- The scripts that have a second code. -/
def secondCodes : List (String × String) := [("qaac", "Copt"), ("qaai", "Zinh")]

/-- The script that a name or a code stands for. -/
def named? (name : String) : Option Script :=
  match names.find? fun p => p.2 == name || (p.1.map Char.toLower) == name with
  | some (code, _) => some ⟨code⟩
  | none => (secondCodes.lookup name).map Script.mk

/-- The script of every code point, as runs. -/
def table : String :=
  "Zyyy65 Latn26 Zyyy6 Latn26 Zyyy47 Latn Zyyy15 Latn Zyyy5 Latn23 Zyyy Latn31 Zyyy Latn449
    Zyyy39 Latn5 Zyyy5 Bopo2 Zyyy20 Zinh112 Grek4 Zyyy Grek3 -2 Grek4 Zyyy Grek -4 Grek Zyyy Grek
    Zyyy Grek3 - Grek - Grek20 - Grek63 Copt14 Grek16 Cyrl133 Zinh2 Cyrl169 - Armn38 -2 Armn50 -2
    Armn3 - Hebr55 -8 Hebr27 -4 Hebr6 -11 Arab5 Zyyy Arab6 Zyyy Arab14 Zyyy Arab3 Zyyy Arab32 Zyyy
    Arab10 Zinh11 Arab26 Zinh Arab108 Zyyy Arab34 Syrc14 - Syrc60 -2 Syrc3 Arab48 Thaa50 -14
    Nkoo59 -2 Nkoo3 Samr46 -2 Samr15 - Mand28 -2 Mand - Syrc11 -5 Arab31 - Arab2 -5 Arab75 Zyyy
    Arab29 Deva81 Zinh4 Deva15 Zyyy2 Deva26 Beng4 - Beng8 -2 Beng2 -2 Beng22 - Beng7 - Beng -3
    Beng4 -2 Beng9 -2 Beng2 -2 Beng4 -8 Beng -4 Beng2 - Beng5 -2 Beng25 -2 Guru3 - Guru6 -4 Guru2
    -2 Guru22 - Guru7 - Guru2 - Guru2 - Guru2 -2 Guru - Guru5 -4 Guru2 -2 Guru3 -3 Guru -7 Guru4 -
    Guru -7 Guru17 -10 Gujr3 - Gujr9 - Gujr3 - Gujr22 - Gujr7 - Gujr2 - Gujr5 -2 Gujr10 - Gujr3 -
    Gujr3 -2 Gujr -15 Gujr4 -2 Gujr12 -7 Gujr7 - Orya3 - Orya8 -2 Orya2 -2 Orya22 - Orya7 - Orya2
    - Orya5 -2 Orya9 -2 Orya2 -2 Orya3 -7 Orya3 -4 Orya2 - Orya5 -2 Orya18 -10 Taml2 - Taml6 -3
    Taml3 - Taml4 -3 Taml2 - Taml - Taml2 -3 Taml2 -3 Taml3 -3 Taml12 -4 Taml5 -3 Taml3 - Taml4 -2
    Taml -6 Taml -14 Taml21 -5 Telu13 - Telu3 - Telu23 - Telu16 -2 Telu9 - Telu3 - Telu4 -7 Telu2
    - Telu3 -2 Telu -2 Telu4 -2 Telu10 -7 Telu9 Knda13 - Knda3 - Knda23 - Knda10 - Knda5 -2 Knda9
    - Knda3 - Knda4 -7 Knda2 -6 Knda2 - Knda4 -2 Knda10 - Knda3 -12 Mlym13 - Mlym3 - Mlym51 -
    Mlym3 - Mlym6 -4 Mlym16 -2 Mlym26 - Sinh3 - Sinh18 -3 Sinh24 - Sinh9 - Sinh -2 Sinh7 -3 Sinh
    -4 Sinh6 - Sinh - Sinh8 -6 Sinh10 -2 Sinh3 -12 Thai58 -4 Zyyy Thai28 -37 Laoo2 - Laoo - Laoo5
    - Laoo24 - Laoo - Laoo23 -2 Laoo5 - Laoo - Laoo7 - Laoo10 -2 Laoo4 -32 Tibt72 - Tibt36 -4
    Tibt39 - Tibt36 - Tibt15 - Tibt7 Zyyy4 Tibt2 -37 Mymr160 Geor38 - Geor -5 Geor -2 Geor43 Zyyy
    Geor4 Hang256 Ethi73 - Ethi4 -2 Ethi7 - Ethi - Ethi4 -2 Ethi41 - Ethi4 -2 Ethi33 - Ethi4 -2
    Ethi7 - Ethi - Ethi4 -2 Ethi15 - Ethi57 - Ethi4 -2 Ethi67 -2 Ethi32 -3 Ethi26 -6 Cher86 -2
    Cher6 -2 Cans640 Ogam29 -3 Runr75 Zyyy3 Runr11 -7 Tglg22 -9 Tglg Hano21 Zyyy2 -9 Buhd20 -12
    Tagb13 - Tagb3 - Tagb2 -12 Khmr94 -2 Khmr10 -6 Khmr10 -6 Mong2 Zyyy2 Mong Zyyy Mong20 -6
    Mong89 -7 Mong43 -5 Cans70 -10 Limb31 - Limb12 -4 Limb12 -4 Limb -3 Limb12 Tale30 -2 Tale5 -11
    Talu44 -4 Talu26 -6 Talu11 -3 Talu2 Khmr32 Bugi28 -2 Bugi2 Lana63 - Lana29 -2 Lana11 -6 Lana10
    -6 Lana14 -2 Zinh31 -49 Bali77 - Bali50 Sund64 Batk52 -8 Batk4 Lepc56 -3 Lepc15 -3 Lepc3
    Olck48 Cyrl11 -5 Geor43 -2 Geor3 Sund8 -8 Zinh3 Zyyy Zinh13 Zyyy Zinh7 Zyyy4 Zinh Zyyy6 Zinh
    Zyyy3 Zinh2 Zyyy -5 Latn38 Grek5 Cyrl Latn49 Grek5 Latn4 Grek5 Latn13 Cyrl Latn70 Grek Zinh64
    Latn256 Grek22 -2 Grek6 -2 Grek38 -2 Grek6 -2 Grek8 - Grek - Grek - Grek - Grek31 -2 Grek53 -
    Grek15 - Grek14 -2 Grek6 - Grek19 -2 Grek3 - Grek9 - Zyyy12 Zinh2 Zyyy87 - Zyyy11 Latn -2
    Zyyy11 Latn Zyyy15 - Latn13 -3 Zyyy33 -15 Zinh33 -15 Zyyy38 Grek Zyyy3 Latn2 Zyyy6 Latn Zyyy27
    Latn Zyyy17 Latn41 Zyyy3 -4 Zyyy666 -22 Zyyy11 -21 Zyyy928 Brai256 Zyyy628 -2 Zyyy32 - Zyyy105
    Glag96 Latn32 Copt116 -5 Copt7 Geor38 - Geor -5 Geor -2 Tfng56 -7 Tfng2 -14 Tfng Ethi23 -9
    Ethi7 - Ethi7 - Ethi7 - Ethi7 - Ethi7 - Ethi7 - Ethi7 - Ethi7 - Cyrl32 Zyyy94 -34 Hani26 -
    Hani89 -12 Hani214 -26 Zyyy21 Hani Zyyy Hani Zyyy25 Hani9 Zinh4 Hang2 Zyyy8 Hani4 Zyyy4 -
    Hira86 -2 Zinh2 Zyyy2 Hira3 Zyyy Kana90 Zyyy2 Kana3 -5 Bopo43 - Hang94 - Zyyy16 Bopo32 Zyyy38
    -9 Zyyy Kana16 Hang31 - Zyyy64 Hang31 Zyyy81 Kana47 Zyyy Kana88 Zyyy168 Hani6592 Zyyy64
    Hani20992 Yiii1165 -3 Yiii55 -9 Lisu48 Vaii300 -20 Cyrl96 Bamu88 -8 Zyyy34 Latn102 Zyyy3
    Latn67 -2 Latn2 - Latn - Latn8 -21 Latn14 Sylo45 -3 Zyyy10 -6 Phag56 -8 Saur70 -8 Saur12 -6
    Deva32 Kali46 Zyyy Kali Rjng36 -11 Rjng Hang29 -3 Java78 - Zyyy Java10 -4 Java2 Mymr31 -
    Cham55 -9 Cham14 -2 Cham10 -2 Cham4 Mymr32 Tavt67 -24 Tavt5 Mtei23 -10 Ethi6 -2 Ethi6 -2 Ethi6
    -9 Ethi7 - Ethi7 - Latn43 Zyyy Latn9 Grek Latn4 Zyyy2 -4 Cher80 Mtei46 -2 Mtei10 -6 Hang11172
    -12 Hang23 -4 Hang49 -8452 Hani366 -2 Hani106 -38 Latn7 -12 Armn5 -5 Hebr26 - Hebr5 - Hebr -
    Hebr2 - Hebr2 - Hebr10 Arab115 -16 Arab363 Zyyy2 Arab80 -2 Arab54 -7 Arab -32 Arab16 Zinh16
    Zyyy10 -6 Zinh14 Cyrl2 Zyyy35 - Zyyy19 - Zyyy4 -4 Arab5 - Arab135 -2 Zyyy - Zyyy32 Latn26
    Zyyy6 Latn26 Zyyy11 Kana10 Zyyy Kana45 Zyyy2 Hang31 -3 Hang6 -2 Hang6 -2 Hang6 -2 Hang3 -3
    Zyyy7 - Zyyy7 -10 Zyyy5 -2 Linb12 - Linb26 - Linb19 - Linb2 - Linb15 -2 Linb14 -34 Linb123 -5
    Zyyy3 -4 Zyyy45 -3 Zyyy9 Grek79 - Zyyy13 -3 Grek -47 Zyyy45 Zinh -130 Lyci29 -3 Cari49 -15
    Zinh Zyyy27 -4 Ital36 -9 Ital3 Goth27 -5 Perm43 -5 Ugar30 - Ugar Xpeo36 -4 Xpeo14 -42 Dsrt80
    Shaw48 Osma30 -2 Osma10 -6 Osge36 -4 Osge36 -4 Elba40 -8 Aghb52 -11 Aghb Vith11 - Vith15 -
    Vith7 - Vith2 - Vith11 - Vith15 - Vith7 - Vith2 -3 Todr52 -12 Lina311 -9 Lina22 -10 Lina8 -24
    Latn6 - Latn42 - Latn9 -69 Cprt6 -2 Cprt - Cprt44 - Cprt2 -3 Cprt -2 Cprt Armi22 - Armi9
    Palm32 Nbat31 -8 Nbat9 -48 Hatr19 - Hatr2 -5 Hatr5 Phnx28 -3 Phnx Lydi26 -5 Lydi -64 Mero32
    Merc24 -4 Merc20 -2 Merc46 Khar4 - Khar2 -5 Khar8 - Khar3 - Khar29 -2 Khar3 -4 Khar10 -7 Khar9
    -7 Sarb32 Narb32 -32 Mani39 -4 Mani12 -9 Avst54 -3 Avst7 Prti22 -2 Prti8 Phli19 -5 Phli8
    Phlp18 -7 Phlp4 -12 Phlp7 -80 Orkh73 -55 Hung51 -13 Hung51 -7 Hung6 Rohg40 -8 Rohg10 -6 Gara38
    -3 Gara29 -8 Gara2 -208 Arab31 - Yezi42 - Yezi3 -2 Yezi2 -16 Arab3 -55 Arab4 Sogo40 -8 Sogd42
    -22 Ougr26 -38 Chrs28 -20 Elym23 -9 Brah78 -4 Brah36 -9 Brah Kthi67 -10 Kthi -2 Sora25 -7
    Sora10 -6 Cakm53 - Cakm18 -8 Mahj39 -9 Shrd96 - Sinh20 -11 Khoj18 - Khoj47 -62 Mult7 - Mult -
    Mult4 - Mult15 - Mult11 -6 Sind59 -5 Sind10 -6 Gran4 - Gran8 -2 Gran2 -2 Gran22 - Gran7 -
    Gran2 - Gran5 - Zinh Gran9 -2 Gran2 -2 Gran3 -2 Gran -6 Gran -5 Gran7 -2 Gran7 -3 Gran5 -11
    Tutg10 - Tutg -2 Tutg - Tutg38 - Tutg10 - Tutg -2 Tutg - Tutg4 - Tutg10 - Tutg2 -8 Tutg2 -29
    Newa92 - Newa5 -30 Tirh72 -8 Tirh10 -166 Sidd54 -2 Sidd38 -34 Modi69 -11 Modi10 -6 Mong13 -19
    Takr58 -6 Takr10 -6 Mymr20 -28 Ahom27 -2 Ahom15 -4 Ahom23 -185 Dogr60 -100 Wara83 -12 Wara
    Diak7 -2 Diak -2 Diak8 - Diak2 - Diak30 - Diak2 -2 Diak12 -9 Diak10 -70 Nand8 -2 Nand46 -2
    Nand11 -27 Zanb72 -8 Soyo83 -13 Cans16 Pauc57 -7 Deva10 -182 Sunu34 -14 Sunu10 -6 Bhks9 -
    Bhks45 - Bhks14 -10 Bhks29 -3 Marc32 -2 Marc22 - Marc14 -73 Gonm7 - Gonm2 - Gonm44 -3 Gonm -
    Gonm2 - Gonm9 -8 Gonm10 -6 Gong6 - Gong2 - Gong37 - Gong2 - Gong6 -7 Gong10 -310 Maka25 -7
    Kawi17 - Kawi41 -3 Kawi29 -85 Lisu -15 Taml50 -13 Taml Xsux922 -102 Xsux111 - Xsux5 -11
    Xsux196 -2636 Cpmn99 -13 Egyp1110 -10 Egyp3995 -5 Hluw583 -6841 Gukh58 -1734 Bamu569 -7 Mroo31
    - Mroo10 -4 Mroo2 Tnsa79 - Tnsa10 -6 Bass30 -2 Bass6 -10 Hmng70 -10 Hmng10 - Hmng7 - Hmng21 -5
    Hmng19 -432 Krai58 -198 Medf91 -101 Plrd75 -4 Plrd57 -7 Plrd17 -64 Tang Nshu Hani2 Kits -11
    Hani2 -14 Tang6136 -8 Tang768 Kits470 -41 Kits Tang9 -8935 Kana4 - Kana7 - Kana2 - Kana
    Hira287 Kana3 -15 Hira -29 Hira3 -2 Kana -14 Kana4 -8 Nshu396 -2308 Dupl107 -5 Dupl13 -3 Dupl9
    -7 Dupl10 -2 Dupl4 Zyyy4 -3932 Zyyy250 -6 Zyyy436 -76 Zinh46 -2 Zinh23 -9 Zyyy116 -60 Zyyy246
    -10 Zyyy39 -2 Zyyy62 Zinh3 Zyyy17 Zinh8 Zyyy2 Zinh7 Zyyy30 Zinh4 Zyyy61 -21 Grek70 -122 Zyyy20
    -12 Zyyy20 -12 Zyyy87 -9 Zyyy25 -135 Zyyy85 - Zyyy71 - Zyyy2 -2 Zyyy -2 Zyyy2 -2 Zyyy4 -
    Zyyy12 - Zyyy - Zyyy7 - Zyyy65 - Zyyy4 -2 Zyyy8 - Zyyy7 - Zyyy28 - Zyyy4 - Zyyy5 - Zyyy -3
    Zyyy7 - Zyyy340 -2 Zyyy292 -2 Zyyy50 Sgnw652 -15 Sgnw5 - Sgnw15 -1104 Latn31 -6 Latn6 -213
    Glag7 - Glag17 -2 Glag7 - Glag2 - Glag5 -5 Cyrl62 -33 Cyrl -112 Hmnp45 -3 Hmnp14 -2 Hmnp10 -4
    Hmnp2 -320 Toto31 -17 Wcho58 -5 Wcho -464 Nagm42 -214 Onao43 -4 Onao -480 Ethi7 - Ethi4 -
    Ethi2 - Ethi15 - Mend197 -2 Mend16 -41 Adlm76 -4 Adlm10 -4 Adlm2 -785 Zyyy68 -76 Zyyy61 -194
    Arab4 - Arab27 - Arab2 - Arab -2 Arab - Arab10 - Arab4 - Arab - Arab -6 Arab -4 Arab - Arab -
    Arab - Arab3 - Arab2 - Arab -2 Arab - Arab - Arab - Arab - Arab - Arab2 - Arab -2 Arab4 -
    Arab7 - Arab4 - Arab4 - Arab - Arab10 - Arab17 -5 Arab3 - Arab5 - Arab17 -52 Arab2 -270 Zyyy44
    -4 Zyyy100 -12 Zyyy15 -2 Zyyy15 - Zyyy15 - Zyyy37 -10 Zyyy174 -56 Zyyy26 Hira Zyyy2 -13 Zyyy44
    -4 Zyyy9 -7 Zyyy2 -14 Zyyy6 -154 Zyyy984 -4 Zyyy17 -3 Zyyy13 -3 Zyyy119 -4 Zyyy95 -6 Zyyy12 -4
    Zyyy -15 Zyyy12 -4 Zyyy56 -8 Zyyy10 -6 Zyyy40 -8 Zyyy30 -2 Zyyy12 -4 Zyyy2 -62 Zyyy340 -12
    Zyyy14 -2 Zyyy13 -3 Zyyy10 -5 Zyyy56 -7 Zyyy15 -2 Zyyy11 -6 Zyyy9 -7 Zyyy147 - Zyyy102 -1030
    Hani42720 -32 Hani4154 -6 Hani222 -2 Hani5762 -14 Hani7473 -15 Hani622 -2466 Hani542 -1506
    Hani4939 -5 Hani4192 -711761 Zyyy -30 Zyyy96 -128 Zinh240"

/-- The code points that belong to a script. -/
def codes (s : Script) : CodeSet := codesWith table (· == s.code)

/-! ## Extensions -/

/-- The code points that are not used with their own script alone. Each word says how many code
points are passed over, how many follow, and the scripts that these are used with. -/
def extensionTable : String :=
  "183+1AvstCariCoptDuplElbaGeorGlagGongGothGrekHaniLatnLydiMahjPermShaw
    516+1BengCyrlDevaLatnLisuThaiToto 10+1BopoLatn 1+3BopoLatn 1+1LatnLisu 9+1LatnThai 1+1BopoLatn
    38+1CherCoptCyrlGrekLatnPermSunuTale 0+1CherCyrlGrekLatnOsgeSunuTaleTodr 0+1CherCyrlLatnTfng
    0+1GlagLatnSunuSyrcThai 0+1AghbCherCoptCyrlGothGrekLatnOsgeSyrcTfngTodr
    0+1CoptElbaGlagGothKanaLatn 0+1CyrlGrekLatnPerm 0+1CoptDuplHebrLatnPermSyrcTaleTfngTodr
    0+1ArmnCyrlDuplGothGrekHebrLatnPermSyrcTale 0+1LatnTfng 0+1DuplLatnSyrc 0+1CherCyrlLatnOsge
    0+1CherLatnTale 0+1LatnSunu 0+1EthiLatn 1+1LatnSunu 0+1CyrlLatnTodr 1+1GrekLatnPermTodr
    12+1LatnSyrc 2+1CherDuplKanaLatnSyrc 0+1CherDuplLatnSyrc 0+1LatnSyrc 7+1LatnSunuSyrc
    0+1LatnSyrc 1+1CherLatnSyrc 0+1AghbCherGothLatnSunuThai 16+1Grek 2+1Grek 18+1LatnOsge
    5+1AghbLatnTodr 4+13Latn 4+2CoptGrek 269+1CyrlPerm 0+1CyrlGlag 0+2CyrlLatn 0+1CyrlGlag
    257+1ArmnGeorGlag 130+1ArabGaraNkooRohgSyrcThaaYezi 14+1ArabGaraNkooRohgSyrcThaaYezi
    0+1ArabSyrcThaa 2+1AdlmArabGaraNkooRohgSyrcThaaYezi 32+1AdlmArabMandManiOugrPhlpRohgSogdSyrc
    10+11ArabSyrc 10+10ArabThaaYezi 6+1ArabSyrc 99+1ArabRohg
    636+1BengDevaGranGujrGuruKndaLatnMlymOryaShrdTamlTeluTirh
    0+1BengDevaGranGujrGuruKndaLatnMlymOryaTamlTeluTirh
    17+1BengDevaDogrGongGonmGranGujrGuruKndaMahjMlymNandOnaoOryaSindSinhSyloTakrTamlTeluTirh
    0+1BengDevaDogrGongGonmGranGujrGukhGuruKndaLimbMahjMlymNandOnaoOryaSindSinhSyloTakrTamlTeluTirh
    0+10DevaDogrKthiMahj 118+10BengCakmSylo 118+10GuruMult 118+10GujrKhoj 246+14GranTaml
    242+10KndaNandTutg 848+10CakmMymrTale 177+1GeorGlagLatn 1519+3Runr 71+2BuhdHanoTagbTglg
    203+2MongPhag 1+1MongPhag 1226+1BengDevaGranKnda 0+1Deva 0+1BengDevaGranKnda 0+1DevaGranKnda
    0+1Deva 0+2BengDeva 0+1DevaShrd 0+1BengDeva 0+1DevaShrd 0+1DevaKndaMlymOryaTamlTelu 0+1Deva
    0+2DevaShrd 0+2Deva 0+1DevaShrd 0+1BengDeva 0+7Deva 0+1DevaNand 0+1BengDeva 0+2Deva
    0+1BengDeva 0+4Deva 0+1BengDevaGranKndaMlymNandOryaSinhTeluTirhTutg 0+1DevaGran
    0+1DevaGranKndaTutg 0+2BengDeva 0+1Beng 0+2DevaGran 0+1Nand 197+2Grek 54+1CyrlLatnSyrc 1+1Syrc
    564+1LatnMongPhag 31+1AdlmArab 10+1CariGeorGlagHungLyciOrkh 2+1CariGrekHungMero
    146+1DevaGranLatn 3366+1CoptLatn 24+1AvstOrkh 0+1AvstCariGeorHungKthiLydiSamr 10+1Dupl
    4+1AdlmArabHung 1+1CyrlGlag 428+16HaniTang 1+1BopoHangHaniHiraKanaMongYiii
    0+1BopoHangHaniHiraKanaMongPhagYiii 0+1BopoHangHaniHiraKana 2+1Hani
    1+2BopoHangHaniHiraKanaMongTibtYiii 0+2BopoHangHaniHiraKanaLisuMongTibtYiii
    0+6BopoHangHaniHiraKanaYiii 1+1BopoHangHaniHiraKana 0+8BopoHangHaniHiraKanaYiii
    0+4BopoHangHaniHiraKana 10+4BopoHani 2+1BopoHangHaniHiraKana 0+5HiraKana
    1+1BopoHangHaniHiraKana 4+2HaniHiraKana 0+2Hani 89+4HiraKana 3+1HiraKana
    90+1BopoHangHaniHiraKanaYiii 0+1HiraKana 147+16Hani 32+38Hani 9+1HaniTang 48+40Hani 56+49Hani
    15+12Hani 51+1Hani 88+25Hani 10+5Hani 96+31Hani 29296+1CyrlGlag 144+8HaniLatn
    296+3DevaDogrGujrGuruKhojKndaKthiMahjMlymModiNandShrdSindTakrTirhTutg
    0+3DevaDogrGujrGuruKhojKndaKthiMahjModiNandShrdSindTakrTirhTutg
    0+2DevaDogrGujrGuruKhojKthiMahjModiSindTakrTirh
    0+1DevaDogrGujrGuruKhojKthiMahjModiShrdSindTakrTirh
    0+1DevaDogrGujrGuruKhojKthiMahjModiSindTakrTirh 183+1BengDevaTutg 1+1DevaTaml 58+1KaliLatnMymr
    160+1BugiJava 21358+2ArabNkoo 178+1ArabThaa 10+1ArabThaa 71+2BopoHangHaniHiraKana
    282+5BopoHangHaniHiraKanaYiii 10+1HiraKana 45+2HiraKana 352+2CpmnCprtLinb 0+1CprtLinb
    4+45CprtLinaLinb 3+9CprtLinb 416+28ArabCopt 2038+1ManiOugr 2062+1GranTaml 1+1GranTaml
    55+2GranTaml 3219+2GranTaml 1+1GranTaml 40140+4Dupl 5820+18Hani 7902+2Hani"

/-- Code points in a row that are used with the same scripts. -/
structure Extension where
  codes : List String
  range : CodeRange

/-- Codes of four letters in a row. -/
def codesOfLetters : List Char → List String
  | a :: b :: c :: d :: rest => String.ofList [a, b, c, d] :: codesOfLetters rest
  | _ => []

/-- The extensions that words describe, from the code point `start` on. -/
def extensionsOfWords (start : Nat) : List (List Char) → List Extension
  | [] => []
  | word :: rest =>
    let gap := word.takeWhile (· != '+')
    let count := (word.drop (gap.length + 1)).takeWhile Char.isDigit
    let codes := codesOfLetters (word.drop (gap.length + 1 + count.length))
    let first := start + natOfDigits gap
    let behind := first + natOfDigits count
    ⟨codes, ⟨first, behind - 1⟩⟩ :: extensionsOfWords behind rest

/-- The code points that are used with a script. -/
def extendedCodes (s : Script) : CodeSet :=
  let extensions := extensionsOfWords 0 (words extensionTable.toList)
  let listed := CodeSet.ofRanges (extensions.map (·.range))
  let used := CodeSet.ofRanges ((extensions.filter (·.codes.contains s.code)).map (·.range))
  (s.codes.diff listed).union used

end Script

end AgentConvert.Unicode
