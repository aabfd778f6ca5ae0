import EndpointMonitor.Character.Runs

/-!
# Scripts

A character belongs to one script, to all of them in common, or to the script of the character
before it. A script has a code of four letters.
-/

namespace EndpointMonitor.Script

/-- The names and codes of the scripts; names are in lower case. -/
def names : List (String × String) := [
  ("adlam", "Adlm"), ("ahom", "Ahom"), ("anatolianhieroglyphs", "Hluw"), ("arabic", "Arab"),
  ("armenian", "Armn"), ("avestan", "Avst"), ("balinese", "Bali"), ("bamum", "Bamu"),
  ("bassavah", "Bass"), ("batak", "Batk"), ("bengali", "Beng"), ("bhaiksuki", "Bhks"),
  ("bopomofo", "Bopo"), ("brahmi", "Brah"), ("braille", "Brai"), ("buginese", "Bugi"),
  ("buhid", "Buhd"), ("canadianaboriginal", "Cans"), ("carian", "Cari"),
  ("caucasianalbanian", "Aghb"), ("chakma", "Cakm"), ("cham", "Cham"), ("cherokee", "Cher"),
  ("chorasmian", "Chrs"), ("common", "Zyyy"), ("coptic", "Copt"), ("cuneiform", "Xsux"),
  ("cypriot", "Cprt"), ("cyprominoan", "Cpmn"), ("cyrillic", "Cyrl"), ("deseret", "Dsrt"),
  ("devanagari", "Deva"), ("divesakuru", "Diak"), ("dogra", "Dogr"), ("duployan", "Dupl"),
  ("egyptianhieroglyphs", "Egyp"), ("elbasan", "Elba"), ("elymaic", "Elym"),
  ("ethiopic", "Ethi"), ("garay", "Gara"), ("georgian", "Geor"), ("glagolitic", "Glag"),
  ("gothic", "Goth"), ("grantha", "Gran"), ("greek", "Grek"), ("gujarati", "Gujr"),
  ("gunjalagondi", "Gong"), ("gurmukhi", "Guru"), ("gurungkhema", "Gukh"), ("han", "Hani"),
  ("hangul", "Hang"), ("hanifirohingya", "Rohg"), ("hanunoo", "Hano"), ("hatran", "Hatr"),
  ("hebrew", "Hebr"), ("hiragana", "Hira"), ("imperialaramaic", "Armi"), ("inherited", "Zinh"),
  ("inscriptionalpahlavi", "Phli"), ("inscriptionalparthian", "Prti"), ("javanese", "Java"),
  ("kaithi", "Kthi"), ("kannada", "Knda"), ("katakana", "Kana"), ("kawi", "Kawi"),
  ("kayahli", "Kali"), ("kharoshthi", "Khar"), ("khitansmallscript", "Kits"),
  ("khmer", "Khmr"), ("khojki", "Khoj"), ("khudawadi", "Sind"), ("kiratrai", "Krai"),
  ("lao", "Laoo"), ("latin", "Latn"), ("lepcha", "Lepc"), ("limbu", "Limb"),
  ("lineara", "Lina"), ("linearb", "Linb"), ("lisu", "Lisu"), ("lycian", "Lyci"),
  ("lydian", "Lydi"), ("mahajani", "Mahj"), ("makasar", "Maka"), ("malayalam", "Mlym"),
  ("mandaic", "Mand"), ("manichaean", "Mani"), ("marchen", "Marc"), ("masaramgondi", "Gonm"),
  ("medefaidrin", "Medf"), ("meeteimayek", "Mtei"), ("mendekikakui", "Mend"),
  ("meroiticcursive", "Merc"), ("meroitichieroglyphs", "Mero"), ("miao", "Plrd"),
  ("modi", "Modi"), ("mongolian", "Mong"), ("mro", "Mroo"), ("multani", "Mult"),
  ("myanmar", "Mymr"), ("nabataean", "Nbat"), ("nagmundari", "Nagm"), ("nandinagari", "Nand"),
  ("newa", "Newa"), ("newtailue", "Talu"), ("nko", "Nkoo"), ("nushu", "Nshu"),
  ("nyiakengpuachuehmong", "Hmnp"), ("ogham", "Ogam"), ("olchiki", "Olck"),
  ("oldhungarian", "Hung"), ("olditalic", "Ital"), ("oldnortharabian", "Narb"),
  ("oldpermic", "Perm"), ("oldpersian", "Xpeo"), ("oldsogdian", "Sogo"),
  ("oldsoutharabian", "Sarb"), ("oldturkic", "Orkh"), ("olduyghur", "Ougr"),
  ("olonal", "Onao"), ("oriya", "Orya"), ("osage", "Osge"), ("osmanya", "Osma"),
  ("pahawhhmong", "Hmng"), ("palmyrene", "Palm"), ("paucinhau", "Pauc"), ("phagspa", "Phag"),
  ("phoenician", "Phnx"), ("psalterpahlavi", "Phlp"), ("rejang", "Rjng"), ("runic", "Runr"),
  ("samaritan", "Samr"), ("saurashtra", "Saur"), ("sharada", "Shrd"), ("shavian", "Shaw"),
  ("siddham", "Sidd"), ("signwriting", "Sgnw"), ("sinhala", "Sinh"), ("sogdian", "Sogd"),
  ("sorasompeng", "Sora"), ("soyombo", "Soyo"), ("sundanese", "Sund"), ("sunuwar", "Sunu"),
  ("sylotinagri", "Sylo"), ("syriac", "Syrc"), ("tagalog", "Tglg"), ("tagbanwa", "Tagb"),
  ("taile", "Tale"), ("taitham", "Lana"), ("taiviet", "Tavt"), ("takri", "Takr"),
  ("tamil", "Taml"), ("tangsa", "Tnsa"), ("tangut", "Tang"), ("telugu", "Telu"),
  ("thaana", "Thaa"), ("thai", "Thai"), ("tibetan", "Tibt"), ("tifinagh", "Tfng"),
  ("tirhuta", "Tirh"), ("todhri", "Todr"), ("toto", "Toto"), ("tulutigalari", "Tutg"),
  ("ugaritic", "Ugar"), ("vai", "Vaii"), ("vithkuqi", "Vith"), ("wancho", "Wcho"),
  ("warangciti", "Wara"), ("yezidi", "Yezi"), ("yi", "Yiii"), ("zanabazarsquare", "Zanb")]

/-- The runs of one script. What is in no script has the code `Zzzz`. -/
def table : List String := [
  "41Zyyy1aLatn6Zyyy1aLatn2fZyyy1LatnfZyyy1Latn5Zyyy17Latn1Zyyy1fLatn1Zyyy1c1Latn27Zyyy5Latn5Zyyy",
  "2Bopo14Zyyy70Zinh4Grek1Zyyy3Grek2Zzzz4Grek1Zyyy1Grek4Zzzz1Grek1Zyyy1Grek1Zyyy3Grek1Zzzz1Grek",
  "1Zzzz14Grek1Zzzz3fGrekeCopt10Grek85Cyrl2Zinha9Cyrl1Zzzz26Armn2Zzzz32Armn2Zzzz3Armn1Zzzz37Hebr",
  "8Zzzz1bHebr4Zzzz6HebrbZzzz5Arab1Zyyy6Arab1ZyyyeArab1Zyyy3Arab1Zyyy20Arab1ZyyyaArabbZinh1aArab",
  "1Zinh6cArab1Zyyy22ArabeSyrc1Zzzz3cSyrc2Zzzz3Syrc30Arab32ThaaeZzzz3bNkoo2Zzzz3Nkoo2eSamr2Zzzz",
  "fSamr1Zzzz1cMand2Zzzz1Mand1ZzzzbSyrc5Zzzz1fArab1Zzzz2Arab5Zzzz4bArab1Zyyy1dArab51Deva4Zinh",
  "fDeva2Zyyy1aDeva4Beng1Zzzz8Beng2Zzzz2Beng2Zzzz16Beng1Zzzz7Beng1Zzzz1Beng3Zzzz4Beng2Zzzz9Beng",
  "2Zzzz2Beng2Zzzz4Beng8Zzzz1Beng4Zzzz2Beng1Zzzz5Beng2Zzzz19Beng2Zzzz3Guru1Zzzz6Guru4Zzzz2Guru",
  "2Zzzz16Guru1Zzzz7Guru1Zzzz2Guru1Zzzz2Guru1Zzzz2Guru2Zzzz1Guru1Zzzz5Guru4Zzzz2Guru2Zzzz3Guru",
  "3Zzzz1Guru7Zzzz4Guru1Zzzz1Guru7Zzzz11GuruaZzzz3Gujr1Zzzz9Gujr1Zzzz3Gujr1Zzzz16Gujr1Zzzz7Gujr",
  "1Zzzz2Gujr1Zzzz5Gujr2ZzzzaGujr1Zzzz3Gujr1Zzzz3Gujr2Zzzz1GujrfZzzz4Gujr2ZzzzcGujr7Zzzz7Gujr",
  "1Zzzz3Orya1Zzzz8Orya2Zzzz2Orya2Zzzz16Orya1Zzzz7Orya1Zzzz2Orya1Zzzz5Orya2Zzzz9Orya2Zzzz2Orya",
  "2Zzzz3Orya7Zzzz3Orya4Zzzz2Orya1Zzzz5Orya2Zzzz12OryaaZzzz2Taml1Zzzz6Taml3Zzzz3Taml1Zzzz4Taml",
  "3Zzzz2Taml1Zzzz1Taml1Zzzz2Taml3Zzzz2Taml3Zzzz3Taml3ZzzzcTaml4Zzzz5Taml3Zzzz3Taml1Zzzz4Taml",
  "2Zzzz1Taml6Zzzz1TamleZzzz15Taml5ZzzzdTelu1Zzzz3Telu1Zzzz17Telu1Zzzz10Telu2Zzzz9Telu1Zzzz3Telu",
  "1Zzzz4Telu7Zzzz2Telu1Zzzz3Telu2Zzzz1Telu2Zzzz4Telu2ZzzzaTelu7Zzzz9TeludKnda1Zzzz3Knda1Zzzz",
  "17Knda1ZzzzaKnda1Zzzz5Knda2Zzzz9Knda1Zzzz3Knda1Zzzz4Knda7Zzzz2Knda6Zzzz2Knda1Zzzz4Knda2Zzzz",
  "aKnda1Zzzz3KndacZzzzdMlym1Zzzz3Mlym1Zzzz33Mlym1Zzzz3Mlym1Zzzz6Mlym4Zzzz10Mlym2Zzzz1aMlym1Zzzz",
  "3Sinh1Zzzz12Sinh3Zzzz18Sinh1Zzzz9Sinh1Zzzz1Sinh2Zzzz7Sinh3Zzzz1Sinh4Zzzz6Sinh1Zzzz1Sinh1Zzzz",
  "8Sinh6ZzzzaSinh2Zzzz3SinhcZzzz3aThai4Zzzz1Zyyy1cThai25Zzzz2Laoo1Zzzz1Laoo1Zzzz5Laoo1Zzzz18Laoo",
  "1Zzzz1Laoo1Zzzz17Laoo2Zzzz5Laoo1Zzzz1Laoo1Zzzz7Laoo1ZzzzaLaoo2Zzzz4Laoo20Zzzz48Tibt1Zzzz24Tibt",
  "4Zzzz27Tibt1Zzzz24Tibt1ZzzzfTibt1Zzzz7Tibt4Zyyy2Tibt25Zzzza0Mymr26Geor1Zzzz1Geor5Zzzz1Geor",
  "2Zzzz2bGeor1Zyyy4Geor100Hang49Ethi1Zzzz4Ethi2Zzzz7Ethi1Zzzz1Ethi1Zzzz4Ethi2Zzzz29Ethi1Zzzz",
  "4Ethi2Zzzz21Ethi1Zzzz4Ethi2Zzzz7Ethi1Zzzz1Ethi1Zzzz4Ethi2ZzzzfEthi1Zzzz39Ethi1Zzzz4Ethi2Zzzz",
  "43Ethi2Zzzz20Ethi3Zzzz1aEthi6Zzzz56Cher2Zzzz6Cher2Zzzz280Cans1dOgam3Zzzz4bRunr3ZyyybRunr7Zzzz",
  "16Tglg9Zzzz1Tglg15Hano2Zyyy9Zzzz14BuhdcZzzzdTagb1Zzzz3Tagb1Zzzz2TagbcZzzz5eKhmr2ZzzzaKhmr6Zzzz",
  "aKhmr6Zzzz2Mong2Zyyy1Mong1Zyyy14Mong6Zzzz59Mong7Zzzz2bMong5Zzzz46CansaZzzz1fLimb1ZzzzcLimb",
  "4ZzzzcLimb4Zzzz1Limb3ZzzzcLimb1eTale2Zzzz5TalebZzzz2cTalu4Zzzz1aTalu6ZzzzbTalu3Zzzz2Talu20Khmr",
  "1cBugi2Zzzz2Bugi3fLana1Zzzz1dLana2ZzzzbLana6ZzzzaLana6ZzzzeLana2Zzzz1fZinh31Zzzz4dBali1Zzzz",
  "32Bali40Sund34Batk8Zzzz4Batk38Lepc3ZzzzfLepc3Zzzz3Lepc30OlckbCyrl5Zzzz2bGeor2Zzzz3Geor8Sund",
  "8Zzzz3Zinh1ZyyydZinh1Zyyy7Zinh4Zyyy1Zinh6Zyyy1Zinh3Zyyy2Zinh1Zyyy5Zzzz26Latn5Grek1Cyrl31Latn",
  "5Grek4Latn5GrekdLatn1Cyrl46Latn1Grek40Zinh100Latn16Grek2Zzzz6Grek2Zzzz26Grek2Zzzz6Grek2Zzzz",
  "8Grek1Zzzz1Grek1Zzzz1Grek1Zzzz1Grek1Zzzz1fGrek2Zzzz35Grek1ZzzzfGrek1ZzzzeGrek2Zzzz6Grek1Zzzz",
  "13Grek2Zzzz3Grek1Zzzz9Grek1ZzzzcZyyy2Zinh57Zyyy1ZzzzbZyyy1Latn2ZzzzbZyyy1LatnfZyyy1ZzzzdLatn",
  "3Zzzz21ZyyyfZzzz21ZinhfZzzz26Zyyy1Grek3Zyyy2Latn6Zyyy1Latn1bZyyy1Latn11Zyyy29Latn3Zyyy4Zzzz",
  "29aZyyy16ZzzzbZyyy15Zzzz3a0Zyyy100Brai274Zyyy2Zzzz20Zyyy1Zzzz69Zyyy60Glag20Latn74Copt5Zzzz",
  "7Copt26Geor1Zzzz1Geor5Zzzz1Geor2Zzzz38Tfng7Zzzz2TfngeZzzz1Tfng17Ethi9Zzzz7Ethi1Zzzz7Ethi1Zzzz",
  "7Ethi1Zzzz7Ethi1Zzzz7Ethi1Zzzz7Ethi1Zzzz7Ethi1Zzzz7Ethi1Zzzz20Cyrl5eZyyy22Zzzz1aHani1Zzzz",
  "59HanicZzzzd6Hani1aZzzz15Zyyy1Hani1Zyyy1Hani19Zyyy9Hani4Zinh2Hang8Zyyy4Hani4Zyyy1Zzzz56Hira",
  "2Zzzz2Zinh2Zyyy3Hira1Zyyy5aKana2Zyyy3Kana5Zzzz2bBopo1Zzzz5eHang1Zzzz10Zyyy20Bopo26Zyyy9Zzzz",
  "1Zyyy10Kana1fHang1Zzzz40Zyyy1fHang51Zyyy2fKana1Zyyy58Kanaa8Zyyy19c0Hani40Zyyy5200Hani48dYiii",
  "3Zzzz37Yiii9Zzzz30Lisu12cVaii14Zzzz60Cyrl58Bamu8Zzzz22Zyyy66Latn3Zyyy43Latn2Zzzz2Latn1Zzzz",
  "1Latn1Zzzz8Latn15ZzzzeLatn2dSylo3ZzzzaZyyy6Zzzz38Phag8Zzzz46Saur8ZzzzcSaur6Zzzz20Deva2eKali",
  "1Zyyy1Kali24RjngbZzzz1Rjng1dHang3Zzzz4eJava1Zzzz1ZyyyaJava4Zzzz2Java1fMymr1Zzzz37Cham9Zzzz",
  "eCham2ZzzzaCham2Zzzz4Cham20Mymr43Tavt18Zzzz5Tavt17MteiaZzzz6Ethi2Zzzz6Ethi2Zzzz6Ethi9Zzzz7Ethi",
  "1Zzzz7Ethi1Zzzz2bLatn1Zyyy9Latn1Grek4Latn2Zyyy4Zzzz50Cher2eMtei2ZzzzaMtei6Zzzz2ba4HangcZzzz",
  "17Hang4Zzzz31Hang2104Zzzz16eHani2Zzzz6aHani26Zzzz7LatncZzzz5Armn5Zzzz1aHebr1Zzzz5Hebr1Zzzz",
  "1Hebr1Zzzz2Hebr1Zzzz2Hebr1ZzzzaHebr73Arab10Zzzz16bArab2Zyyy50Arab2Zzzz36Arab7Zzzz1Arab20Zzzz",
  "10Arab10ZinhaZyyy6ZzzzeZinh2Cyrl23Zyyy1Zzzz13Zyyy1Zzzz4Zyyy4Zzzz5Arab1Zzzz87Arab2Zzzz1Zyyy",
  "1Zzzz20Zyyy1aLatn6Zyyy1aLatnbZyyyaKana1Zyyy2dKana2Zyyy1fHang3Zzzz6Hang2Zzzz6Hang2Zzzz6Hang",
  "2Zzzz3Hang3Zzzz7Zyyy1Zzzz7ZyyyaZzzz5Zyyy2ZzzzcLinb1Zzzz1aLinb1Zzzz13Linb1Zzzz2Linb1ZzzzfLinb",
  "2ZzzzeLinb22Zzzz7bLinb5Zzzz3Zyyy4Zzzz2dZyyy3Zzzz9Zyyy4fGrek1ZzzzdZyyy3Zzzz1Grek2fZzzz2dZyyy",
  "1Zinh82Zzzz1dLyci3Zzzz31CarifZzzz1Zinh1bZyyy4Zzzz24Ital9Zzzz3Ital1bGoth5Zzzz2bPerm5Zzzz1eUgar",
  "1Zzzz1Ugar24Xpeo4ZzzzeXpeo2aZzzz50Dsrt30Shaw1eOsma2ZzzzaOsma6Zzzz24Osge4Zzzz24Osge4Zzzz28Elba",
  "8Zzzz34AghbbZzzz1AghbbVith1ZzzzfVith1Zzzz7Vith1Zzzz2Vith1ZzzzbVith1ZzzzfVith1Zzzz7Vith1Zzzz",
  "2Vith3Zzzz34TodrcZzzz137Lina9Zzzz16LinaaZzzz8Lina18Zzzz6Latn1Zzzz2aLatn1Zzzz9Latn45Zzzz6Cprt",
  "2Zzzz1Cprt1Zzzz2cCprt1Zzzz2Cprt3Zzzz1Cprt2Zzzz1Cprt16Armi1Zzzz9Armi20Palm1fNbat8Zzzz9Nbat",
  "30Zzzz13Hatr1Zzzz2Hatr5Zzzz5Hatr1cPhnx3Zzzz1Phnx1aLydi5Zzzz1Lydi40Zzzz20Mero18Merc4Zzzz14Merc",
  "2Zzzz2eMerc4Khar1Zzzz2Khar5Zzzz8Khar1Zzzz3Khar1Zzzz1dKhar2Zzzz3Khar4ZzzzaKhar7Zzzz9Khar7Zzzz",
  "20Sarb20Narb20Zzzz27Mani4ZzzzcMani9Zzzz36Avst3Zzzz7Avst16Prti2Zzzz8Prti13Phli5Zzzz8Phli12Phlp",
  "7Zzzz4PhlpcZzzz7Phlp50Zzzz49Orkh37Zzzz33HungdZzzz33Hung7Zzzz6Hung28Rohg8ZzzzaRohg6Zzzz26Gara",
  "3Zzzz1dGara8Zzzz2Garad0Zzzz1fArab1Zzzz2aYezi1Zzzz3Yezi2Zzzz2Yezi10Zzzz3Arab37Zzzz4Arab28Sogo",
  "8Zzzz2aSogd16Zzzz1aOugr26Zzzz1cChrs14Zzzz17Elym9Zzzz4eBrah4Zzzz24Brah9Zzzz1Brah43KthiaZzzz",
  "1Kthi2Zzzz19Sora7ZzzzaSora6Zzzz35Cakm1Zzzz12Cakm8Zzzz27Mahj9Zzzz60Shrd1Zzzz14SinhbZzzz12Khoj",
  "1Zzzz2fKhoj3eZzzz7Mult1Zzzz1Mult1Zzzz4Mult1ZzzzfMult1ZzzzbMult6Zzzz3bSind5ZzzzaSind6Zzzz4Gran",
  "1Zzzz8Gran2Zzzz2Gran2Zzzz16Gran1Zzzz7Gran1Zzzz2Gran1Zzzz5Gran1Zzzz1Zinh9Gran2Zzzz2Gran2Zzzz",
  "3Gran2Zzzz1Gran6Zzzz1Gran5Zzzz7Gran2Zzzz7Gran3Zzzz5GranbZzzzaTutg1Zzzz1Tutg2Zzzz1Tutg1Zzzz",
  "26Tutg1ZzzzaTutg1Zzzz1Tutg2Zzzz1Tutg1Zzzz4Tutg1ZzzzaTutg1Zzzz2Tutg8Zzzz2Tutg1dZzzz5cNewa1Zzzz",
  "5Newa1eZzzz48Tirh8ZzzzaTirha6Zzzz36Sidd2Zzzz26Sidd22Zzzz45ModibZzzzaModi6ZzzzdMong13Zzzz3aTakr",
  "6ZzzzaTakr6Zzzz14Mymr1cZzzz1bAhom2ZzzzfAhom4Zzzz17Ahomb9Zzzz3cDogr64Zzzz53WaracZzzz1Wara7Diak",
  "2Zzzz1Diak2Zzzz8Diak1Zzzz2Diak1Zzzz1eDiak1Zzzz2Diak2ZzzzcDiak9ZzzzaDiak46Zzzz8Nand2Zzzz2eNand",
  "2ZzzzbNand1bZzzz48Zanb8Zzzz53SoyodZzzz10Cans39Pauc7ZzzzaDevab6Zzzz22SunueZzzzaSunu6Zzzz9Bhks",
  "1Zzzz2dBhks1ZzzzeBhksaZzzz1dBhks3Zzzz20Marc2Zzzz16Marc1ZzzzeMarc49Zzzz7Gonm1Zzzz2Gonm1Zzzz",
  "2cGonm3Zzzz1Gonm1Zzzz2Gonm1Zzzz9Gonm8ZzzzaGonm6Zzzz6Gong1Zzzz2Gong1Zzzz25Gong1Zzzz2Gong1Zzzz",
  "6Gong7ZzzzaGong136Zzzz19Maka7Zzzz11Kawi1Zzzz29Kawi3Zzzz1dKawi55Zzzz1LisufZzzz32TamldZzzz1Taml",
  "39aXsux66Zzzz6fXsux1Zzzz5XsuxbZzzzc4Xsuxa4cZzzz63CpmndZzzz456EgypaZzzzf9bEgyp5Zzzz247Hluw",
  "1ab9Zzzz3aGukh6c6Zzzz239Bamu7Zzzz1fMroo1ZzzzaMroo4Zzzz2Mroo4fTnsa1ZzzzaTnsa6Zzzz1eBass2Zzzz",
  "6BassaZzzz46HmngaZzzzaHmng1Zzzz7Hmng1Zzzz15Hmng5Zzzz13Hmng1b0Zzzz3aKraic6Zzzz5bMedf65Zzzz",
  "4bPlrd4Zzzz39Plrd7Zzzz11Plrd40Zzzz1Tang1Nshu2Hani1KitsbZzzz2HanieZzzz17f8Tang8Zzzz300Tang",
  "1d6Kits29Zzzz1Kits9Tang22e7Zzzz4Kana1Zzzz7Kana1Zzzz2Kana1Zzzz1Kana11fHira3KanafZzzz1Hira1dZzzz",
  "3Hira2Zzzz1KanaeZzzz4Kana8Zzzz18cNshu904Zzzz6bDupl5ZzzzdDupl3Zzzz9Dupl7ZzzzaDupl2Zzzz4Dupl",
  "4Zyyyf5cZzzzfaZyyy6Zzzz1b4Zyyy4cZzzz2eZinh2Zzzz17Zinh9Zzzz74Zyyy3cZzzzf6ZyyyaZzzz27Zyyy2Zzzz",
  "3eZyyy3Zinh11Zyyy8Zinh2Zyyy7Zinh1eZyyy4Zinh3dZyyy15Zzzz46Grek7aZzzz14ZyyycZzzz14ZyyycZzzz",
  "57Zyyy9Zzzz19Zyyy87Zzzz55Zyyy1Zzzz47Zyyy1Zzzz2Zyyy2Zzzz1Zyyy2Zzzz2Zyyy2Zzzz4Zyyy1ZzzzcZyyy",
  "1Zzzz1Zyyy1Zzzz7Zyyy1Zzzz41Zyyy1Zzzz4Zyyy2Zzzz8Zyyy1Zzzz7Zyyy1Zzzz1cZyyy1Zzzz4Zyyy1Zzzz5Zyyy",
  "1Zzzz1Zyyy3Zzzz7Zyyy1Zzzz154Zyyy2Zzzz124Zyyy2Zzzz32Zyyy28cSgnwfZzzz5Sgnw1ZzzzfSgnw450Zzzz",
  "1fLatn6Zzzz6Latnd5Zzzz7Glag1Zzzz11Glag2Zzzz7Glag1Zzzz2Glag1Zzzz5Glag5Zzzz3eCyrl21Zzzz1Cyrl",
  "70Zzzz2dHmnp3ZzzzeHmnp2ZzzzaHmnp4Zzzz2Hmnp140Zzzz1fToto11Zzzz3aWcho5Zzzz1Wcho1d0Zzzz2aNagm",
  "d6Zzzz2bOnao4Zzzz1Onao1e0Zzzz7Ethi1Zzzz4Ethi1Zzzz2Ethi1ZzzzfEthi1Zzzzc5Mend2Zzzz10Mend29Zzzz",
  "4cAdlm4ZzzzaAdlm4Zzzz2Adlm311Zzzz44Zyyy4cZzzz3dZyyyc2Zzzz4Arab1Zzzz1bArab1Zzzz2Arab1Zzzz1Arab",
  "2Zzzz1Arab1ZzzzaArab1Zzzz4Arab1Zzzz1Arab1Zzzz1Arab6Zzzz1Arab4Zzzz1Arab1Zzzz1Arab1Zzzz1Arab",
  "1Zzzz3Arab1Zzzz2Arab1Zzzz1Arab2Zzzz1Arab1Zzzz1Arab1Zzzz1Arab1Zzzz1Arab1Zzzz1Arab1Zzzz2Arab",
  "1Zzzz1Arab2Zzzz4Arab1Zzzz7Arab1Zzzz4Arab1Zzzz4Arab1Zzzz1Arab1ZzzzaArab1Zzzz11Arab5Zzzz3Arab",
  "1Zzzz5Arab1Zzzz11Arab34Zzzz2Arab10eZzzz2cZyyy4Zzzz64ZyyycZzzzfZyyy2ZzzzfZyyy1ZzzzfZyyy1Zzzz",
  "25ZyyyaZzzzaeZyyy38Zzzz1aZyyy1Hira2ZyyydZzzz2cZyyy4Zzzz9Zyyy7Zzzz2ZyyyeZzzz6Zyyy9aZzzz3d8Zyyy",
  "4Zzzz11Zyyy3ZzzzdZyyy3Zzzz77Zyyy4Zzzz5fZyyy6ZzzzcZyyy4Zzzz1ZyyyfZzzzcZyyy4Zzzz38Zyyy8ZzzzaZyyy",
  "6Zzzz28Zyyy8Zzzz1eZyyy2ZzzzcZyyy4Zzzz2Zyyy3eZzzz154ZyyycZzzzeZyyy2ZzzzdZyyy3ZzzzaZyyy5Zzzz",
  "38Zyyy7ZzzzfZyyy2ZzzzbZyyy6Zzzz9Zyyy7Zzzz93Zyyy1Zzzz66Zyyy406Zzzza6e0Hani20Zzzz103aHani6Zzzz",
  "deHani2Zzzz1682HanieZzzz1d31HanifZzzz26eHani9a2Zzzz21eHani5e2Zzzz134bHani5Zzzz1060Hani",
  "adc51Zzzz1Zyyy1eZzzz60Zyyy80Zzzzf0Zinh2fe10Zzzz"]

/-- The runs of one script, in order. -/
def runs : List Run :=
  Run.ofTable 4 table

/-- The code of a script with a name or a code in lower case. Two scripts have another code. -/
def code? (name : String) : Option String :=
  if name = "qaai" then some "Zinh"
  else if name = "qaac" then some "Copt"
  else (names.find? fun s => s.1 = name || s.2.map Char.toLower = name).map (·.2)

/-- The characters of a script, by its code. -/
def ofCode (code : String) : CodeSet :=
  Run.select (· = code) runs

end EndpointMonitor.Script
