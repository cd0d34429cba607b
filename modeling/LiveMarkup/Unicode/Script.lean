import LiveMarkup.Unicode.Table

/-!
The script of the characters, and the names of the scripts.
-/

namespace LiveMarkup.Unicode

/-- The four letters of a script stand after the length of each run of it. -/
def scriptRuns : List Run :=
  runs
    ["65Zyyy26Latn6Zyyy26Latn47ZyyyLatn15ZyyyLatn5Zyyy23LatnZyyy31LatnZyyy449Latn39Zyyy5Latn5Zyy",
     "y2Bopo20Zyyy112Zinh4GrekZyyy3Grek2Zzzz4GrekZyyyGrek4ZzzzGrekZyyyGrekZyyy3GrekZzzzGrekZzzz2",
     "0GrekZzzz63Grek14Copt16Grek133Cyrl2Zinh169CyrlZzzz38Armn2Zzzz50Armn2Zzzz3ArmnZzzz55Hebr8Zz",
     "zz27Hebr4Zzzz6Hebr11Zzzz5ArabZyyy6ArabZyyy14ArabZyyy3ArabZyyy32ArabZyyy10Arab11Zinh26ArabZ",
     "inh108ArabZyyy34Arab14SyrcZzzz60Syrc2Zzzz3Syrc48Arab50Thaa14Zzzz59Nkoo2Zzzz3Nkoo46Samr2Zzz",
     "z15SamrZzzz28Mand2ZzzzMandZzzz11Syrc5Zzzz31ArabZzzz2Arab5Zzzz75ArabZyyy29Arab81Deva4Zinh15",
     "Deva2Zyyy26Deva4BengZzzz8Beng2Zzzz2Beng2Zzzz22BengZzzz7BengZzzzBeng3Zzzz4Beng2Zzzz9Beng2Zz",
     "zz2Beng2Zzzz4Beng8ZzzzBeng4Zzzz2BengZzzz5Beng2Zzzz25Beng2Zzzz3GuruZzzz6Guru4Zzzz2Guru2Zzzz",
     "22GuruZzzz7GuruZzzz2GuruZzzz2GuruZzzz2Guru2ZzzzGuruZzzz5Guru4Zzzz2Guru2Zzzz3Guru3ZzzzGuru7",
     "Zzzz4GuruZzzzGuru7Zzzz17Guru10Zzzz3GujrZzzz9GujrZzzz3GujrZzzz22GujrZzzz7GujrZzzz2GujrZzzz5",
     "Gujr2Zzzz10GujrZzzz3GujrZzzz3Gujr2ZzzzGujr15Zzzz4Gujr2Zzzz12Gujr7Zzzz7GujrZzzz3OryaZzzz8Or",
     "ya2Zzzz2Orya2Zzzz22OryaZzzz7OryaZzzz2OryaZzzz5Orya2Zzzz9Orya2Zzzz2Orya2Zzzz3Orya7Zzzz3Orya",
     "4Zzzz2OryaZzzz5Orya2Zzzz18Orya10Zzzz2TamlZzzz6Taml3Zzzz3TamlZzzz4Taml3Zzzz2TamlZzzzTamlZzz",
     "z2Taml3Zzzz2Taml3Zzzz3Taml3Zzzz12Taml4Zzzz5Taml3Zzzz3TamlZzzz4Taml2ZzzzTaml6ZzzzTaml14Zzzz",
     "21Taml5Zzzz13TeluZzzz3TeluZzzz23TeluZzzz16Telu2Zzzz9TeluZzzz3TeluZzzz4Telu7Zzzz2TeluZzzz3T",
     "elu2ZzzzTelu2Zzzz4Telu2Zzzz10Telu7Zzzz9Telu13KndaZzzz3KndaZzzz23KndaZzzz10KndaZzzz5Knda2Zz",
     "zz9KndaZzzz3KndaZzzz4Knda7Zzzz2Knda6Zzzz2KndaZzzz4Knda2Zzzz10KndaZzzz3Knda12Zzzz13MlymZzzz",
     "3MlymZzzz51MlymZzzz3MlymZzzz6Mlym4Zzzz16Mlym2Zzzz26MlymZzzz3SinhZzzz18Sinh3Zzzz24SinhZzzz9",
     "SinhZzzzSinh2Zzzz7Sinh3ZzzzSinh4Zzzz6SinhZzzzSinhZzzz8Sinh6Zzzz10Sinh2Zzzz3Sinh12Zzzz58Tha",
     "i4ZzzzZyyy28Thai37Zzzz2LaooZzzzLaooZzzz5LaooZzzz24LaooZzzzLaooZzzz23Laoo2Zzzz5LaooZzzzLaoo",
     "Zzzz7LaooZzzz10Laoo2Zzzz4Laoo32Zzzz72TibtZzzz36Tibt4Zzzz39TibtZzzz36TibtZzzz15TibtZzzz7Tib",
     "t4Zyyy2Tibt37Zzzz160Mymr38GeorZzzzGeor5ZzzzGeor2Zzzz43GeorZyyy4Geor256Hang73EthiZzzz4Ethi2",
     "Zzzz7EthiZzzzEthiZzzz4Ethi2Zzzz41EthiZzzz4Ethi2Zzzz33EthiZzzz4Ethi2Zzzz7EthiZzzzEthiZzzz4E",
     "thi2Zzzz15EthiZzzz57EthiZzzz4Ethi2Zzzz67Ethi2Zzzz32Ethi3Zzzz26Ethi6Zzzz86Cher2Zzzz6Cher2Zz",
     "zz640Cans29Ogam3Zzzz75Runr3Zyyy11Runr7Zzzz22Tglg9ZzzzTglg21Hano2Zyyy9Zzzz20Buhd12Zzzz13Tag",
     "bZzzz3TagbZzzz2Tagb12Zzzz94Khmr2Zzzz10Khmr6Zzzz10Khmr6Zzzz2Mong2ZyyyMongZyyy20Mong6Zzzz89M",
     "ong7Zzzz43Mong5Zzzz70Cans10Zzzz31LimbZzzz12Limb4Zzzz12Limb4ZzzzLimb3Zzzz12Limb30Tale2Zzzz5",
     "Tale11Zzzz44Talu4Zzzz26Talu6Zzzz11Talu3Zzzz2Talu32Khmr28Bugi2Zzzz2Bugi63LanaZzzz29Lana2Zzz",
     "z11Lana6Zzzz10Lana6Zzzz14Lana2Zzzz31Zinh49Zzzz77BaliZzzz50Bali64Sund52Batk8Zzzz4Batk56Lepc",
     "3Zzzz15Lepc3Zzzz3Lepc48Olck11Cyrl5Zzzz43Geor2Zzzz3Geor8Sund8Zzzz3ZinhZyyy13ZinhZyyy7Zinh4Z",
     "yyyZinh6ZyyyZinh3Zyyy2ZinhZyyy5Zzzz38Latn5GrekCyrl49Latn5Grek4Latn5Grek13LatnCyrl70LatnGre",
     "k64Zinh256Latn22Grek2Zzzz6Grek2Zzzz38Grek2Zzzz6Grek2Zzzz8GrekZzzzGrekZzzzGrekZzzzGrekZzzz3",
     "1Grek2Zzzz53GrekZzzz15GrekZzzz14Grek2Zzzz6GrekZzzz19Grek2Zzzz3GrekZzzz9GrekZzzz12Zyyy2Zinh",
     "87ZyyyZzzz11ZyyyLatn2Zzzz11ZyyyLatn15ZyyyZzzz13Latn3Zzzz33Zyyy15Zzzz33Zinh15Zzzz38ZyyyGrek",
     "3Zyyy2Latn6ZyyyLatn27ZyyyLatn17Zyyy41Latn3Zyyy4Zzzz666Zyyy22Zzzz11Zyyy21Zzzz928Zyyy256Brai",
     "628Zyyy2Zzzz32ZyyyZzzz105Zyyy96Glag32Latn116Copt5Zzzz7Copt38GeorZzzzGeor5ZzzzGeor2Zzzz56Tf",
     "ng7Zzzz2Tfng14ZzzzTfng23Ethi9Zzzz7EthiZzzz7EthiZzzz7EthiZzzz7EthiZzzz7EthiZzzz7EthiZzzz7Et",
     "hiZzzz7EthiZzzz32Cyrl94Zyyy34Zzzz26HaniZzzz89Hani12Zzzz214Hani26Zzzz21ZyyyHaniZyyyHani25Zy",
     "yy9Hani4Zinh2Hang8Zyyy4Hani4ZyyyZzzz86Hira2Zzzz2Zinh2Zyyy3HiraZyyy90Kana2Zyyy3Kana5Zzzz43B",
     "opoZzzz94HangZzzz16Zyyy32Bopo38Zyyy9ZzzzZyyy16Kana31HangZzzz64Zyyy31Hang81Zyyy47KanaZyyy88",
     "Kana168Zyyy6592Hani64Zyyy20992Hani1165Yiii3Zzzz55Yiii9Zzzz48Lisu300Vaii20Zzzz96Cyrl88Bamu8",
     "Zzzz34Zyyy102Latn3Zyyy67Latn2Zzzz2LatnZzzzLatnZzzz8Latn21Zzzz14Latn45Sylo3Zzzz10Zyyy6Zzzz5",
     "6Phag8Zzzz70Saur8Zzzz12Saur6Zzzz32Deva46KaliZyyyKali36Rjng11ZzzzRjng29Hang3Zzzz78JavaZzzzZ",
     "yyy10Java4Zzzz2Java31MymrZzzz55Cham9Zzzz14Cham2Zzzz10Cham2Zzzz4Cham32Mymr67Tavt24Zzzz5Tavt",
     "23Mtei10Zzzz6Ethi2Zzzz6Ethi2Zzzz6Ethi9Zzzz7EthiZzzz7EthiZzzz43LatnZyyy9LatnGrek4Latn2Zyyy4",
     "Zzzz80Cher46Mtei2Zzzz10Mtei6Zzzz11172Hang12Zzzz23Hang4Zzzz49Hang8452Zzzz366Hani2Zzzz106Han",
     "i38Zzzz7Latn12Zzzz5Armn5Zzzz26HebrZzzz5HebrZzzzHebrZzzz2HebrZzzz2HebrZzzz10Hebr115Arab16Zz",
     "zz363Arab2Zyyy80Arab2Zzzz54Arab7ZzzzArab32Zzzz16Arab16Zinh10Zyyy6Zzzz14Zinh2Cyrl35ZyyyZzzz",
     "19ZyyyZzzz4Zyyy4Zzzz5ArabZzzz135Arab2ZzzzZyyyZzzz32Zyyy26Latn6Zyyy26Latn11Zyyy10KanaZyyy45",
     "Kana2Zyyy31Hang3Zzzz6Hang2Zzzz6Hang2Zzzz6Hang2Zzzz3Hang3Zzzz7ZyyyZzzz7Zyyy10Zzzz5Zyyy2Zzzz",
     "12LinbZzzz26LinbZzzz19LinbZzzz2LinbZzzz15Linb2Zzzz14Linb34Zzzz123Linb5Zzzz3Zyyy4Zzzz45Zyyy",
     "3Zzzz9Zyyy79GrekZzzz13Zyyy3ZzzzGrek47Zzzz45ZyyyZinh130Zzzz29Lyci3Zzzz49Cari15ZzzzZinh27Zyy",
     "y4Zzzz36Ital9Zzzz3Ital27Goth5Zzzz43Perm5Zzzz30UgarZzzzUgar36Xpeo4Zzzz14Xpeo42Zzzz80Dsrt48S",
     "haw30Osma2Zzzz10Osma6Zzzz36Osge4Zzzz36Osge4Zzzz40Elba8Zzzz52Aghb11ZzzzAghb11VithZzzz15Vith",
     "Zzzz7VithZzzz2VithZzzz11VithZzzz15VithZzzz7VithZzzz2Vith3Zzzz52Todr12Zzzz311Lina9Zzzz22Lin",
     "a10Zzzz8Lina24Zzzz6LatnZzzz42LatnZzzz9Latn69Zzzz6Cprt2ZzzzCprtZzzz44CprtZzzz2Cprt3ZzzzCprt",
     "2ZzzzCprt22ArmiZzzz9Armi32Palm31Nbat8Zzzz9Nbat48Zzzz19HatrZzzz2Hatr5Zzzz5Hatr28Phnx3ZzzzPh",
     "nx26Lydi5ZzzzLydi64Zzzz32Mero24Merc4Zzzz20Merc2Zzzz46Merc4KharZzzz2Khar5Zzzz8KharZzzz3Khar",
     "Zzzz29Khar2Zzzz3Khar4Zzzz10Khar7Zzzz9Khar7Zzzz32Sarb32Narb32Zzzz39Mani4Zzzz12Mani9Zzzz54Av",
     "st3Zzzz7Avst22Prti2Zzzz8Prti19Phli5Zzzz8Phli18Phlp7Zzzz4Phlp12Zzzz7Phlp80Zzzz73Orkh55Zzzz5",
     "1Hung13Zzzz51Hung7Zzzz6Hung40Rohg8Zzzz10Rohg6Zzzz38Gara3Zzzz29Gara8Zzzz2Gara208Zzzz31ArabZ",
     "zzz42YeziZzzz3Yezi2Zzzz2Yezi16Zzzz3Arab55Zzzz4Arab40Sogo8Zzzz42Sogd22Zzzz26Ougr38Zzzz28Chr",
     "s20Zzzz23Elym9Zzzz78Brah4Zzzz36Brah9ZzzzBrah67Kthi10ZzzzKthi2Zzzz25Sora7Zzzz10Sora6Zzzz53C",
     "akmZzzz18Cakm8Zzzz39Mahj9Zzzz96ShrdZzzz20Sinh11Zzzz18KhojZzzz47Khoj62Zzzz7MultZzzzMultZzzz",
     "4MultZzzz15MultZzzz11Mult6Zzzz59Sind5Zzzz10Sind6Zzzz4GranZzzz8Gran2Zzzz2Gran2Zzzz22GranZzz",
     "z7GranZzzz2GranZzzz5GranZzzzZinh9Gran2Zzzz2Gran2Zzzz3Gran2ZzzzGran6ZzzzGran5Zzzz7Gran2Zzzz",
     "7Gran3Zzzz5Gran11Zzzz10TutgZzzzTutg2ZzzzTutgZzzz38TutgZzzz10TutgZzzzTutg2ZzzzTutgZzzz4Tutg",
     "Zzzz10TutgZzzz2Tutg8Zzzz2Tutg29Zzzz92NewaZzzz5Newa30Zzzz72Tirh8Zzzz10Tirh166Zzzz54Sidd2Zzz",
     "z38Sidd34Zzzz69Modi11Zzzz10Modi6Zzzz13Mong19Zzzz58Takr6Zzzz10Takr6Zzzz20Mymr28Zzzz27Ahom2Z",
     "zzz15Ahom4Zzzz23Ahom185Zzzz60Dogr100Zzzz83Wara12ZzzzWara7Diak2ZzzzDiak2Zzzz8DiakZzzz2DiakZ",
     "zzz30DiakZzzz2Diak2Zzzz12Diak9Zzzz10Diak70Zzzz8Nand2Zzzz46Nand2Zzzz11Nand27Zzzz72Zanb8Zzzz",
     "83Soyo13Zzzz16Cans57Pauc7Zzzz10Deva182Zzzz34Sunu14Zzzz10Sunu6Zzzz9BhksZzzz45BhksZzzz14Bhks",
     "10Zzzz29Bhks3Zzzz32Marc2Zzzz22MarcZzzz14Marc73Zzzz7GonmZzzz2GonmZzzz44Gonm3ZzzzGonmZzzz2Go",
     "nmZzzz9Gonm8Zzzz10Gonm6Zzzz6GongZzzz2GongZzzz37GongZzzz2GongZzzz6Gong7Zzzz10Gong310Zzzz25M",
     "aka7Zzzz17KawiZzzz41Kawi3Zzzz29Kawi85ZzzzLisu15Zzzz50Taml13ZzzzTaml922Xsux102Zzzz111XsuxZz",
     "zz5Xsux11Zzzz196Xsux2636Zzzz99Cpmn13Zzzz1110Egyp10Zzzz3995Egyp5Zzzz583Hluw6841Zzzz58Gukh17",
     "34Zzzz569Bamu7Zzzz31MrooZzzz10Mroo4Zzzz2Mroo79TnsaZzzz10Tnsa6Zzzz30Bass2Zzzz6Bass10Zzzz70H",
     "mng10Zzzz10HmngZzzz7HmngZzzz21Hmng5Zzzz19Hmng432Zzzz58Krai198Zzzz91Medf101Zzzz75Plrd4Zzzz5",
     "7Plrd7Zzzz17Plrd64ZzzzTangNshu2HaniKits11Zzzz2Hani14Zzzz6136Tang8Zzzz768Tang470Kits41ZzzzK",
     "its9Tang8935Zzzz4KanaZzzz7KanaZzzz2KanaZzzzKana287Hira3Kana15ZzzzHira29Zzzz3Hira2ZzzzKana1",
     "4Zzzz4Kana8Zzzz396Nshu2308Zzzz107Dupl5Zzzz13Dupl3Zzzz9Dupl7Zzzz10Dupl2Zzzz4Dupl4Zyyy3932Zz",
     "zz250Zyyy6Zzzz436Zyyy76Zzzz46Zinh2Zzzz23Zinh9Zzzz116Zyyy60Zzzz246Zyyy10Zzzz39Zyyy2Zzzz62Zy",
     "yy3Zinh17Zyyy8Zinh2Zyyy7Zinh30Zyyy4Zinh61Zyyy21Zzzz70Grek122Zzzz20Zyyy12Zzzz20Zyyy12Zzzz87",
     "Zyyy9Zzzz25Zyyy135Zzzz85ZyyyZzzz71ZyyyZzzz2Zyyy2ZzzzZyyy2Zzzz2Zyyy2Zzzz4ZyyyZzzz12ZyyyZzzz",
     "ZyyyZzzz7ZyyyZzzz65ZyyyZzzz4Zyyy2Zzzz8ZyyyZzzz7ZyyyZzzz28ZyyyZzzz4ZyyyZzzz5ZyyyZzzzZyyy3Zz",
     "zz7ZyyyZzzz340Zyyy2Zzzz292Zyyy2Zzzz50Zyyy652Sgnw15Zzzz5SgnwZzzz15Sgnw1104Zzzz31Latn6Zzzz6L",
     "atn213Zzzz7GlagZzzz17Glag2Zzzz7GlagZzzz2GlagZzzz5Glag5Zzzz62Cyrl33ZzzzCyrl112Zzzz45Hmnp3Zz",
     "zz14Hmnp2Zzzz10Hmnp4Zzzz2Hmnp320Zzzz31Toto17Zzzz58Wcho5ZzzzWcho464Zzzz42Nagm214Zzzz43Onao4",
     "ZzzzOnao480Zzzz7EthiZzzz4EthiZzzz2EthiZzzz15EthiZzzz197Mend2Zzzz16Mend41Zzzz76Adlm4Zzzz10A",
     "dlm4Zzzz2Adlm785Zzzz68Zyyy76Zzzz61Zyyy194Zzzz4ArabZzzz27ArabZzzz2ArabZzzzArab2ZzzzArabZzzz",
     "10ArabZzzz4ArabZzzzArabZzzzArab6ZzzzArab4ZzzzArabZzzzArabZzzzArabZzzz3ArabZzzz2ArabZzzzAra",
     "b2ZzzzArabZzzzArabZzzzArabZzzzArabZzzzArabZzzz2ArabZzzzArab2Zzzz4ArabZzzz7ArabZzzz4ArabZzz",
     "z4ArabZzzzArabZzzz10ArabZzzz17Arab5Zzzz3ArabZzzz5ArabZzzz17Arab52Zzzz2Arab270Zzzz44Zyyy4Zz",
     "zz100Zyyy12Zzzz15Zyyy2Zzzz15ZyyyZzzz15ZyyyZzzz37Zyyy10Zzzz174Zyyy56Zzzz26ZyyyHira2Zyyy13Zz",
     "zz44Zyyy4Zzzz9Zyyy7Zzzz2Zyyy14Zzzz6Zyyy154Zzzz984Zyyy4Zzzz17Zyyy3Zzzz13Zyyy3Zzzz119Zyyy4Zz",
     "zz95Zyyy6Zzzz12Zyyy4ZzzzZyyy15Zzzz12Zyyy4Zzzz56Zyyy8Zzzz10Zyyy6Zzzz40Zyyy8Zzzz30Zyyy2Zzzz1",
     "2Zyyy4Zzzz2Zyyy62Zzzz340Zyyy12Zzzz14Zyyy2Zzzz13Zyyy3Zzzz10Zyyy5Zzzz56Zyyy7Zzzz15Zyyy2Zzzz1",
     "1Zyyy6Zzzz9Zyyy7Zzzz147ZyyyZzzz102Zyyy1030Zzzz42720Hani32Zzzz4154Hani6Zzzz222Hani2Zzzz5762",
     "Hani14Zzzz7473Hani15Zzzz622Hani2466Zzzz542Hani1506Zzzz4939Hani5Zzzz4192Hani711761ZzzzZyyy3",
     "0Zzzz96Zyyy128Zzzz240Zinh196112Zzzz"]

/-- The four letters of each script with its names, in lower case and without separators. -/
def scriptNames : List (String × List String) :=
  [("Adlm", ["adlm", "adlam"]), ("Aghb", ["aghb", "caucasianalbanian"]), ("Ahom", ["ahom"]),
   ("Arab", ["arab", "arabic"]), ("Armi", ["armi", "imperialaramaic"]),
   ("Armn", ["armn", "armenian"]), ("Avst", ["avst", "avestan"]), ("Bali", ["bali", "balinese"]),
   ("Bamu", ["bamu", "bamum"]), ("Bass", ["bass", "bassavah"]), ("Batk", ["batk", "batak"]),
   ("Beng", ["beng", "bengali"]), ("Bhks", ["bhks", "bhaiksuki"]), ("Bopo", ["bopo", "bopomofo"]),
   ("Brah", ["brah", "brahmi"]), ("Brai", ["brai", "braille"]), ("Bugi", ["bugi", "buginese"]),
   ("Buhd", ["buhd", "buhid"]), ("Cakm", ["cakm", "chakma"]),
   ("Cans", ["cans", "canadianaboriginal"]), ("Cari", ["cari", "carian"]), ("Cham", ["cham"]),
   ("Cher", ["cher", "cherokee"]), ("Chrs", ["chrs", "chorasmian"]),
   ("Copt", ["copt", "coptic", "qaac"]), ("Cpmn", ["cpmn", "cyprominoan"]),
   ("Cprt", ["cprt", "cypriot"]), ("Cyrl", ["cyrl", "cyrillic"]), ("Deva", ["deva", "devanagari"]),
   ("Diak", ["diak", "divesakuru"]), ("Dogr", ["dogr", "dogra"]), ("Dsrt", ["dsrt", "deseret"]),
   ("Dupl", ["dupl", "duployan"]), ("Egyp", ["egyp", "egyptianhieroglyphs"]),
   ("Elba", ["elba", "elbasan"]), ("Elym", ["elym", "elymaic"]), ("Ethi", ["ethi", "ethiopic"]),
   ("Gara", ["gara", "garay"]), ("Geor", ["geor", "georgian"]), ("Glag", ["glag", "glagolitic"]),
   ("Gong", ["gong", "gunjalagondi"]), ("Gonm", ["gonm", "masaramgondi"]),
   ("Goth", ["goth", "gothic"]), ("Gran", ["gran", "grantha"]), ("Grek", ["grek", "greek"]),
   ("Gujr", ["gujr", "gujarati"]), ("Gukh", ["gukh", "gurungkhema"]),
   ("Guru", ["guru", "gurmukhi"]), ("Hang", ["hang", "hangul"]), ("Hani", ["hani", "han"]),
   ("Hano", ["hano", "hanunoo"]), ("Hatr", ["hatr", "hatran"]), ("Hebr", ["hebr", "hebrew"]),
   ("Hira", ["hira", "hiragana"]), ("Hluw", ["hluw", "anatolianhieroglyphs"]),
   ("Hmng", ["hmng", "pahawhhmong"]), ("Hmnp", ["hmnp", "nyiakengpuachuehmong"]),
   ("Hung", ["hung", "oldhungarian"]), ("Ital", ["ital", "olditalic"]),
   ("Java", ["java", "javanese"]), ("Kali", ["kali", "kayahli"]), ("Kana", ["kana", "katakana"]),
   ("Kawi", ["kawi"]), ("Khar", ["khar", "kharoshthi"]), ("Khmr", ["khmr", "khmer"]),
   ("Khoj", ["khoj", "khojki"]), ("Kits", ["kits", "khitansmallscript"]),
   ("Knda", ["knda", "kannada"]), ("Krai", ["krai", "kiratrai"]), ("Kthi", ["kthi", "kaithi"]),
   ("Lana", ["lana", "taitham"]), ("Laoo", ["laoo", "lao"]), ("Latn", ["latn", "latin"]),
   ("Lepc", ["lepc", "lepcha"]), ("Limb", ["limb", "limbu"]), ("Lina", ["lina", "lineara"]),
   ("Linb", ["linb", "linearb"]), ("Lisu", ["lisu"]), ("Lyci", ["lyci", "lycian"]),
   ("Lydi", ["lydi", "lydian"]), ("Mahj", ["mahj", "mahajani"]), ("Maka", ["maka", "makasar"]),
   ("Mand", ["mand", "mandaic"]), ("Mani", ["mani", "manichaean"]), ("Marc", ["marc", "marchen"]),
   ("Medf", ["medf", "medefaidrin"]), ("Mend", ["mend", "mendekikakui"]),
   ("Merc", ["merc", "meroiticcursive"]), ("Mero", ["mero", "meroitichieroglyphs"]),
   ("Mlym", ["mlym", "malayalam"]), ("Modi", ["modi"]), ("Mong", ["mong", "mongolian"]),
   ("Mroo", ["mroo", "mro"]), ("Mtei", ["mtei", "meeteimayek"]), ("Mult", ["mult", "multani"]),
   ("Mymr", ["mymr", "myanmar"]), ("Nagm", ["nagm", "nagmundari"]),
   ("Nand", ["nand", "nandinagari"]), ("Narb", ["narb", "oldnortharabian"]),
   ("Nbat", ["nbat", "nabataean"]), ("Newa", ["newa"]), ("Nkoo", ["nkoo", "nko"]),
   ("Nshu", ["nshu", "nushu"]), ("Ogam", ["ogam", "ogham"]), ("Olck", ["olck", "olchiki"]),
   ("Onao", ["onao", "olonal"]), ("Orkh", ["orkh", "oldturkic"]), ("Orya", ["orya", "oriya"]),
   ("Osge", ["osge", "osage"]), ("Osma", ["osma", "osmanya"]), ("Ougr", ["ougr", "olduyghur"]),
   ("Palm", ["palm", "palmyrene"]), ("Pauc", ["pauc", "paucinhau"]),
   ("Perm", ["perm", "oldpermic"]), ("Phag", ["phag", "phagspa"]),
   ("Phli", ["phli", "inscriptionalpahlavi"]), ("Phlp", ["phlp", "psalterpahlavi"]),
   ("Phnx", ["phnx", "phoenician"]), ("Plrd", ["plrd", "miao"]),
   ("Prti", ["prti", "inscriptionalparthian"]), ("Rjng", ["rjng", "rejang"]),
   ("Rohg", ["rohg", "hanifirohingya"]), ("Runr", ["runr", "runic"]),
   ("Samr", ["samr", "samaritan"]), ("Sarb", ["sarb", "oldsoutharabian"]),
   ("Saur", ["saur", "saurashtra"]), ("Sgnw", ["sgnw", "signwriting"]),
   ("Shaw", ["shaw", "shavian"]), ("Shrd", ["shrd", "sharada"]), ("Sidd", ["sidd", "siddham"]),
   ("Sind", ["sind", "khudawadi"]), ("Sinh", ["sinh", "sinhala"]), ("Sogd", ["sogd", "sogdian"]),
   ("Sogo", ["sogo", "oldsogdian"]), ("Sora", ["sora", "sorasompeng"]),
   ("Soyo", ["soyo", "soyombo"]), ("Sund", ["sund", "sundanese"]), ("Sunu", ["sunu", "sunuwar"]),
   ("Sylo", ["sylo", "sylotinagri"]), ("Syrc", ["syrc", "syriac"]), ("Tagb", ["tagb", "tagbanwa"]),
   ("Takr", ["takr", "takri"]), ("Tale", ["tale", "taile"]), ("Talu", ["talu", "newtailue"]),
   ("Taml", ["taml", "tamil"]), ("Tang", ["tang", "tangut"]), ("Tavt", ["tavt", "taiviet"]),
   ("Telu", ["telu", "telugu"]), ("Tfng", ["tfng", "tifinagh"]), ("Tglg", ["tglg", "tagalog"]),
   ("Thaa", ["thaa", "thaana"]), ("Thai", ["thai"]), ("Tibt", ["tibt", "tibetan"]),
   ("Tirh", ["tirh", "tirhuta"]), ("Tnsa", ["tnsa", "tangsa"]), ("Todr", ["todr", "todhri"]),
   ("Toto", ["toto"]), ("Tutg", ["tutg", "tulutigalari"]), ("Ugar", ["ugar", "ugaritic"]),
   ("Vaii", ["vaii", "vai"]), ("Vith", ["vith", "vithkuqi"]), ("Wara", ["wara", "warangciti"]),
   ("Wcho", ["wcho", "wancho"]), ("Xpeo", ["xpeo", "oldpersian"]), ("Xsux", ["xsux", "cuneiform"]),
   ("Yezi", ["yezi", "yezidi"]), ("Yiii", ["yiii", "yi"]), ("Zanb", ["zanb", "zanabazarsquare"]),
   ("Zinh", ["zinh", "inherited", "qaai"]), ("Zyyy", ["zyyy", "common"])]

/-- The four letters of the script of a name. -/
def scriptCode? (name : Text) : Option Text :=
  (scriptNames.find? (·.2.any (·.toList == name))).map (·.1.toList)

/-- The characters of a script, by its four letters. -/
def inScript (code : Text) : CharSet :=
  select scriptRuns (· == code)

def script? (name : Text) : Option CharSet :=
  (scriptCode? name).map inScript

end LiveMarkup.Unicode
