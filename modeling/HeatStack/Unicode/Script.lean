import HeatStack.Unicode.CharSet

/-! # Scripts

Every assigned code point belongs to one script.  Some are used with several scripts: their
extensions are given apart, and replace the script that they belong to. -/
set_option autoImplicit false
namespace HeatStack.Unicode

def scriptNames : List (List String) :=
  [["adlam", "adlm"],
    ["ahom"],
    ["anatolianhieroglyphs", "hluw"],
    ["arab", "arabic"],
    ["armenian", "armn"],
    ["avestan", "avst"],
    ["bali", "balinese"],
    ["bamu", "bamum"],
    ["bass", "bassavah"],
    ["batak", "batk"],
    ["beng", "bengali"],
    ["bhaiksuki", "bhks"],
    ["bopo", "bopomofo"],
    ["brah", "brahmi"],
    ["brai", "braille"],
    ["bugi", "buginese"],
    ["buhd", "buhid"],
    ["canadianaboriginal", "cans"],
    ["cari", "carian"],
    ["aghb", "caucasianalbanian"],
    ["cakm", "chakma"],
    ["cham"],
    ["cher", "cherokee"],
    ["chorasmian", "chrs"],
    ["common", "zyyy"],
    ["copt", "coptic", "qaac"],
    ["cuneiform", "xsux"],
    ["cprt", "cypriot"],
    ["cpmn", "cyprominoan"],
    ["cyrillic", "cyrl"],
    ["deseret", "dsrt"],
    ["deva", "devanagari"],
    ["diak", "divesakuru"],
    ["dogr", "dogra"],
    ["dupl", "duployan"],
    ["egyp", "egyptianhieroglyphs"],
    ["elba", "elbasan"],
    ["elym", "elymaic"],
    ["ethi", "ethiopic"],
    ["gara", "garay"],
    ["geor", "georgian"],
    ["glag", "glagolitic"],
    ["goth", "gothic"],
    ["gran", "grantha"],
    ["greek", "grek"],
    ["gujarati", "gujr"],
    ["gong", "gunjalagondi"],
    ["gurmukhi", "guru"],
    ["gukh", "gurungkhema"],
    ["han", "hani"],
    ["hang", "hangul"],
    ["hanifirohingya", "rohg"],
    ["hano", "hanunoo"],
    ["hatr", "hatran"],
    ["hebr", "hebrew"],
    ["hira", "hiragana"],
    ["armi", "imperialaramaic"],
    ["inherited", "qaai", "zinh"],
    ["inscriptionalpahlavi", "phli"],
    ["inscriptionalparthian", "prti"],
    ["java", "javanese"],
    ["kaithi", "kthi"],
    ["kannada", "knda"],
    ["kana", "katakana"],
    ["kawi"],
    ["kali", "kayahli"],
    ["khar", "kharoshthi"],
    ["khitansmallscript", "kits"],
    ["khmer", "khmr"],
    ["khoj", "khojki"],
    ["khudawadi", "sind"],
    ["kiratrai", "krai"],
    ["lao", "laoo"],
    ["latin", "latn"],
    ["lepc", "lepcha"],
    ["limb", "limbu"],
    ["lina", "lineara"],
    ["linb", "linearb"],
    ["lisu"],
    ["lyci", "lycian"],
    ["lydi", "lydian"],
    ["mahajani", "mahj"],
    ["maka", "makasar"],
    ["malayalam", "mlym"],
    ["mand", "mandaic"],
    ["mani", "manichaean"],
    ["marc", "marchen"],
    ["gonm", "masaramgondi"],
    ["medefaidrin", "medf"],
    ["meeteimayek", "mtei"],
    ["mend", "mendekikakui"],
    ["merc", "meroiticcursive"],
    ["mero", "meroitichieroglyphs"],
    ["miao", "plrd"],
    ["modi"],
    ["mong", "mongolian"],
    ["mro", "mroo"],
    ["mult", "multani"],
    ["myanmar", "mymr"],
    ["nabataean", "nbat"],
    ["nagm", "nagmundari"],
    ["nand", "nandinagari"],
    ["newtailue", "talu"],
    ["newa"],
    ["nko", "nkoo"],
    ["nshu", "nushu"],
    ["hmnp", "nyiakengpuachuehmong"],
    ["ogam", "ogham"],
    ["olchiki", "olck"],
    ["olonal", "onao"],
    ["hung", "oldhungarian"],
    ["ital", "olditalic"],
    ["narb", "oldnortharabian"],
    ["oldpermic", "perm"],
    ["oldpersian", "xpeo"],
    ["oldsogdian", "sogo"],
    ["oldsoutharabian", "sarb"],
    ["oldturkic", "orkh"],
    ["olduyghur", "ougr"],
    ["oriya", "orya"],
    ["osage", "osge"],
    ["osma", "osmanya"],
    ["hmng", "pahawhhmong"],
    ["palm", "palmyrene"],
    ["pauc", "paucinhau"],
    ["phag", "phagspa"],
    ["phnx", "phoenician"],
    ["phlp", "psalterpahlavi"],
    ["rejang", "rjng"],
    ["runic", "runr"],
    ["samaritan", "samr"],
    ["saur", "saurashtra"],
    ["sharada", "shrd"],
    ["shavian", "shaw"],
    ["sidd", "siddham"],
    ["sgnw", "signwriting"],
    ["sinh", "sinhala"],
    ["sogd", "sogdian"],
    ["sora", "sorasompeng"],
    ["soyo", "soyombo"],
    ["sund", "sundanese"],
    ["sunu", "sunuwar"],
    ["sylo", "sylotinagri"],
    ["syrc", "syriac"],
    ["tagalog", "tglg"],
    ["tagb", "tagbanwa"],
    ["taile", "tale"],
    ["lana", "taitham"],
    ["taiviet", "tavt"],
    ["takr", "takri"],
    ["tamil", "taml"],
    ["tangsa", "tnsa"],
    ["tang", "tangut"],
    ["telu", "telugu"],
    ["thaa", "thaana"],
    ["thai"],
    ["tibetan", "tibt"],
    ["tfng", "tifinagh"],
    ["tirh", "tirhuta"],
    ["todhri", "todr"],
    ["toto"],
    ["tulutigalari", "tutg"],
    ["ugar", "ugaritic"],
    ["unknown", "zzzz"],
    ["vai", "vaii"],
    ["vith", "vithkuqi"],
    ["wancho", "wcho"],
    ["wara", "warangciti"],
    ["yezi", "yezidi"],
    ["yi", "yiii"],
    ["zanabazarsquare", "zanb"]]

def scriptText : String :=
  String.join [
    "Y1tCVqY6CVqY1bCV1YfCV1Y5CVnY1CVvY1CVchY13CV5Y5M2YkCF34BS4Y1BS3GH2BS4Y1BS1GH4BS1Y1BS1Y1BS3G",
    "H1BS1GH1BSkGH1BS1rZeBSgBD3pCF2BD4pGH1E12GH2E1eGH2E3GH1CC1jGH8CCrGH4CC6GHbD5Y1D6Y1DeY1D3Y1D",
    "wY1DaCFbDqCF1D30Y1DyFNeGH1FN1oGH2FN3D1cFY1eGHeEA1nGH2EA3FA1aGH2FAfGH1DGsGH2DG1GH1FNbGH5DyG",
    "H5D23Y1DtBF29CF4BFfY2BFqK4GH1K8GH2K2GH2KmGH1K7GH1K1GH3K4GH2K9GH2K2GH2K4GH8K1GH4K2GH1K5GH2K",
    "pGH2BV3GH1BV6GH4BV2GH2BVmGH1BV7GH1BV2GH1BV2GH1BV2GH2BV1GH1BV5GH4BV2GH2BV3GH3BV1GH7BV4GH1BV",
    "1GH7BVhGHaBT3GH1BT9GH1BT3GH1BTmGH1BT7GH1BT2GH1BT5GH2BTaGH1BT3GH1BT3GH2BT1GHfBT4GH2BTcGH7BT",
    "7GH1EP3GH1EP8GH2EP2GH2EPmGH1EP7GH1EP2GH1EP5GH2EP9GH2EP2GH2EP3GH7EP3GH4EP2GH1EP5GH2EPiGHaFU",
    "2GH1FU6GH3FU3GH1FU4GH3FU2GH1FU1GH1FU2GH3FU2GH3FU3GH3FUcGH4FU5GH3FU3GH1FU4GH2FU1GH6FU1GHeFU",
    "lGH5FXdGH1FX3GH1FXnGH1FXgGH2FX9GH1FX3GH1FX4GH7FX2GH1FX3GH1FX2GH2FX4GH2FXaGH7FX9CKdGH1CK3GH",
    "1CKnGH1CKaGH1CK5GH2CK9GH1CK3GH1CK4GH7CK2GH5CK3GH1CK4GH2CKaGH1CK3GHcDFdGH1DF3GH1DF1fGH1DF3G",
    "H1DF6GH4DFgGH2DFqGH1FG3GH1FGiGH3FGoGH1FG9GH1FG1GH2FG7GH3FG1GH4FG6GH1FG1GH1FG8GH6FGaGH2FG3G",
    "HcFZ1mGH4Y1FZsGH11CU2GH1CU1GH1CU5GH1CUoGH1CU1GH1CUnGH2CU5GH1CU1GH1CU7GH1CUaGH2CU4GHwGA20GH",
    "1GA10GH4GA13GH1GA10GH1GAfGH1GA7Y4GA2GH11DU4gBO12GH1BO1GH5BO1GH2BO17Y1BO4BY74BM21GH1BM4GH2B",
    "M7GH1BM1GH1BM4GH2BM15GH1BM4GH2BMxGH1BM4GH2BM7GH1BM1GH1BM4GH2BMfGH1BM1lGH1BM4GH2BM1vGH2BMwG",
    "H3BMqGH6W2eGH2W6GH2RhsEDtGH3EZ23Y3EZbGH7FOmGH9FO1CAlY2GH9QkGHcFPdGH1FP3GH1FP2GHcCQ2mGH2CQa",
    "GH6CQaGH6DR2Y2DR1Y1DRkGH6DR2hGH7DR17GH5R1yGHaCXvGH1CXcGH4CXcGH4CX1GH3CXcFQuGH2FQ5GHbDY18GH",
    "4DYqGH6DYbGH3DY2CQwPsGH2P2FR1rGH1FRtGH2FRbGH6FRaGH6FReGH2CF1aGH2CFcGHkG25GH1G1eFK1sJ1gGH8J",
    "4CW1kGH3CWfGH3CW3EE1cBDbGH5BO17GH2BO3FK8GH8CF3Y1CFdY1CF7Y4CF1Y6CF1Y3CF2Y1GH5CV12BS5BD1CV1d",
    "BS5CV4BS5CVdBD1CV1yBS1CF1sCV74BSmGH2BS6GH2BS12GH2BS6GH2BS8GH1BS1GH1BS1GH1BS1GH1BSvGH2BS1hG",
    "H1BSfGH1BSeGH2BS6GH1BSjGH2BS3GH1BS9GH1YcCF2Y2fGH1YbCV1GH2YbCV1YfGH1CVdGH3YyGHeCFxGHfY12BS1",
    "Y3CV2Y6CV1YrCV1YhCV15Y3GH4YiiGHmYbGHlYpsO74YhgGH2Y3uBP2oCVwZ38GH5Z7BO12GH1BO1GH5BO1GH2GB1k",
    "GH7GB2GHeGB1BMnGH9BM7GH1BM7GH1BM7GH1BM7GH1BM7GH1BM7GH1BM7GH1BM7GH1BDwY2mGHyBXqGH1BX2hGHcBX",
    "5yGHqYlBX1Y1BX1YpBX9CF4BY2Y8BX4Y4GH1CD2eGH2CF2Y2CD3Y1CL2iY2CL3GH5M17GH1BY2mGH1YgMwY12GH9Y1",
    "CLgBYvGH1Y1sBYvY29CL1bY1CL2gY4oBX534Y1sBXg74GNwdGH3GN1jGH9DA1cGI8cGHkBD2oH2gGH8YyCV2uY3CV2",
    "aGHkCVfFM19GH3YaGH6EV1kGH8FB1yGH8FBcGH6BFwCN1aY1CN1EY10GHbEY1BYtGH3CI26GH1Y1CIaGH4CI2DUvGH",
    "1V1jGH9VeGH2VaGH2V4DUwFS1vGHoFS5DLnGHaBM6GH2BM6GH2BM6GH9BM7GH1BM7GH1CV17Y1CV9BS1CV4Y2GH4W2",
    "8DL1aGH2DLaGH6BY8mcGHcBYnGH4BY1dGH6isBXa6GH2BX2yGH12CV7GHcE5GH5CCqGH1CC5GH1CC1GH1CC2GH1CC2",
    "GH1CCaDdqY2D40GHwDgCFgYaGH6CFeBD2YzGH1YjGH1Y4GH4D5GH1D3rGH2Y1GH1YwCVqY6CVqYbCLaY1CL19Y2BYv",
    "GH3BY6GH2BY6GH2BY6GH2BY3GH3Y7GH1Y7GHaY5GH2CZcGH1CZqGH1CZjGH1CZ2GH1CZfGH2CZeGHyCZ3fGH5Y3GH4",
    "Y19GH3Y9BS27GH1YdGH3BS1GH1bY19CF1GH3mDBtGH3S1dGHfCF1YrGH4EH10GH9EH3BQrGH5EJ17GH5GGuGH1GG1E",
    "K10GH4EKeGH16BE28FD1cERuGH2ERaGH6EQ10GH4EQ10GH4BK14GH8T1gGHbT1GJbGH1GJfGH1GJ7GH1GJ2GH1GJbG",
    "H1GJfGH1GJ7GH1GJ2GH3GD1gGHcCY8nGH9CYmGHaCY8GHoCV6GH1CV16GH1CV9GH1xBB6GH2BB1GH1BB18GH1BB2GH",
    "3BB1GH2BB1CEmGH1CE9ETwDVvGH8DV9GH1cCBjGH1CB2GH5CB5EWsGH3EW1DCqGH5DC1GPqGH12DOwDNoGH4DNkGH2",
    "DN1aCO4GH1CO2GH5CO8GH1CO3GH1COtGH2CO3GH4COaGH7CO9GH7EMwEIwGHwDH13GH4DHcGH9F1iGH3F7CHmGH2CH",
    "8CGjGH5CG8EXiGH7EX4GHcEX7GH28EN21GH1jEG1fGHdEG1fGH7EG6BZ14GH8BZaGH6BN12GH3BNtGH8BN2GH5sDvG",
    "H1GM16GH1GM3GH2GM2GHgD6GH8D9GHxD6EL14GH8FH16GHmEOqGH12XsGHkBLnGH9N26GH4N10GH9N1CJ1vGHaCJ1G",
    "H2FIpGH7FIaGH6U1hGH1UiGH8DD13GH9FC2oGH1FGkGHbCRiGH1CR1bGH1qDT7GH1DT1GH1DT4GH1DTfGH1DTbGH6C",
    "S1nGH5CSaGH6BR4GH1BR8GH2BR2GH2BRmGH1BR7GH1BR2GH1BR5GH1CF1BR9GH2BR2GH2BR3GH2BR1GH6BR1GH5BR7",
    "GH2BR7GH3BR5GHbGFaGH1GF1GH2GF1GH1GF12GH1GFaGH1GF1GH2GF1GH1GF4GH1GFaGH1GF2GH8GF2GHtDZ2kGH1D",
    "Z5GHuGC20GH8GCaGH4mFE1iGH2FE12GHyDQ1xGHbDQaGH6DRdGHjFT1mGH6FTaGH6DUkGHsBrGH2BfGH4BnGH55BH1",
    "oGH2sGL2bGHcGL1BG7GH2BG1GH2BG8GH1BG2GH1BGuGH1BG2GH2BGcGH9BGaGH1yDX8GH2DX1aGH2DXbGHrGO20GH8",
    "FJ2bGHdRgEU1lGH7BFaGH2eFC8GH2gFLyGHeFLaGH6L9GH1L19GH1LeGHaLtGH3DIwGH2DImGH1DIeGH21DJ7GH1DJ",
    "2GH1DJ18GH3DJ1GH1DJ2GH1DJ9GH8DJaGH6BU6GH1BU2GH1BU11GH1BU2GH1BU6GH7BUaGH6GP18GH4GPaGH6uDEpG",
    "H7CMhGH1CM15GH3CMtGH2dDA1GHfFU1eGHdFU1BApmGH2uBA33GH1BA5GHbBA5gGH218BC2rGHdBJuuGHaBJ32zGH5",
    "Cg7GH5a1BW1mGH1c6HftGH7DSvGH1DSaGH4DS2FV27GH1FVaGH6IuGH2I6GHaES1yGHaESaGH1ES7GH1ESlGH5ESjG",
    "Hc0CT1mGH5iDK2jGH5GPpGH2GPpGH18DP23GH4DP1lGH7DPhGH1sFW1EB1BX2CP1GHbBX7GH9FW5c0CPd2GH15CP1F",
    "WvGH2pFW37GH6ppCL4GH1CL7GH1CL2GH1CL1CD7zCL3GHfCD1GHtCD3GH2CL1GHeCL4GH8EBb0GH1s4BI2zGH5BIdG",
    "H3BI9GH7BIaGH2BI4Y4GH318Y71GH3Yc4GH6YnGHfYhGHfCF1aGH2CFnGH9Y38GH1oY6uGHaY13GH2Y1qCF3YhCF8Y",
    "2CF7YuCF4Y1pGHlBS1yGH3eYkGHcYkGHcY2fGH9YpGH3rY2dGH1Y1zGH1Y2GH2Y1GH2Y2GH2Y4GH1YcGH1Y1GH1Y7G",
    "H1Y1tGH1Y4GH2Y8GH1Y7GH1YsGH1Y4GH1Y5GH1Y1GH3Y7GH1Y9gGH2Y84GH2Y1eFFi4GHfFF5GH1FFfGHuoCVvGH6C",
    "V6GH5xBP7GH1BPhGH2BP7GH1BP2GH1BP5GH5BD1qGHxBD1GH34EC19GH3ECeGH2ECaGH4EC2GH8wGEvGHhGK1mGH5G",
    "K1GHcwDW16GH5yEF17GH4EF1GH5cGPvGH1GPmGH8GP2GH68BM7GH1BM4GH1BM2GH1BMfGH1DM5hGH2DMgGH15A24GH",
    "4AaGH4A2GHltY1wGH24Y1pGH5eD4GH1DrGH1D2GH1D1GH2D1GH1DaGH1D4GH1D1GH1D1GH6D1GH4D1GH1D1GH1D1GH",
    "1D3GH1D2GH1D1GH2D1GH1D1GH1D1GH1D1GH1D1GH1D2GH1D1GH2D4GH1D7GH1D4GH1D4GH1D1GH1DaGH1DhGH5D3GH",
    "1D5GH1DhGH1gD2GH7iY18GH4Y2sGHcYfGH2YfGH1YfGH1Y11GHaY4uGH1kYqCD1Y2GHdY18GH4Y9GH7Y2GHeY6GH4a",
    "YrdGH3YhGH3YdGH3Y62GH6YcGH4Y1GHfYcGH4Y1kGH8YaGH6Y14GH8YuGH2YcGH4Y2GHeY9GH13Y9kGH8YeGH2YdGH",
    "3YbGH3Y1lGH1Y1GH4YgGH2YcGH4YaGH7Y43GH1Y2vGHslBXwyoGHwBX3dqGH2BX4geGH2BX5rlGHfBXhaGH1wiBXf2",
    "GH15uBX3t7GH5BX6juGHf5vrY1GHuY2oGH3kCF6oGH47bk"]

def scriptRuns : Runs := Runs.ofText scriptText

/-- The code points with extensions of their own, labelled by the place of these in
`extensionSets`. -/
def extensionText : String :=
  String.join [
    "EO53A1EOecB1EOaC1EO1C3EO1D1EO9E1EO1C1EO12F1G1H1I1J1K1L1M1N1O1P1Q1R1S1T1EO1S1U1EO1V1EOfW1X1",
    "Y1EO7Z1Y1EO1BA1BB1EOgBC1EO2BC1EOiBD1EO5BE1EO4BFdEO4BG2EO7hBH1BI1BJ2BI1EO75BK1EO3mBL1EOeBL1",
    "BM1EO2BN1EOwBO1EOaBPbEOaBQaEO6BP1EO2rBR1EOhoBS1BT1EOhBU1BV1BWaEO3aBXaEO3aBYaEO3aBZaEO6uCAe",
    "EO6qCBaEOnkCCaEO4xCD1EO167CE3EO1zCF2EO5nCG2EO1CG1EOy2CH1CI1CH1CJ1CI1CK1CL1CM1CN1CO1CP1CI1C",
    "O2CI2CO1CQ1CR1CI6CS1CT1CU1CI1CV1CI4CW1CX1CY1CQ2CZ1CX2DA1EO5hBC2EO1iDB1EO1DC1EOfoDD1EOvDE1E",
    "OaDF1EO2DG1EO42DH1EO2liDI1EOoDJ1DK1EOaDL1EO4DM1EO1BI1EObwDNgEO1DO1DP1DQ1EO2DR1EO1DS2DT2DU6",
    "EO1DQ1DU8DQ4EOaDV4EO2DQ1DW5EO1DQ1EO4DX2DR2EO2hDW4EO3DW1EO2iDU1DW1EO43DRgEOwDR12EO9DN1EO1cD",
    "R14EO1kDR1dEOfDRcEO1fDR1EO2gDRpEOaDR5EO2oDRvEOmlsBI1EO40DY8EO88DZ3EA3EB2EC1EB1EO53ED1EO1EE",
    "1EO1mEF1EO4gEG1EOghaEH2EO4yEI1EOaEI1EO1zDQ2EO7uDU5EOaDW1EO19DW2EO9sEJ2EK1EO4EL19EO3EK9EObk",
    "EMsEO1kmEN1EO1laCA1EO1CA1EO1jCA2EO2hfCA2EO1CA1EOuz0DL4EO4hoDRiEO63iDR2"]

def extensionRuns : Runs := Runs.ofText extensionText

def extensionSets : List (List Nat) :=
  [[5, 18, 25, 34, 36, 40, 41, 42, 44, 46, 49, 73, 80, 81, 113, 133], [10, 29, 31, 73, 78, 155, 160], [12, 73], [73, 78], [73, 155], [22, 25, 29, 44, 73, 113, 141, 146],
    [22, 29, 44, 73, 120, 141, 146, 159], [22, 29, 73, 157], [41, 73, 141, 143, 155], [19, 22, 25, 29, 42, 44, 73, 120, 143, 157, 159], [25, 36, 41, 42, 63, 73], [29, 44, 73, 113, 157],
    [25, 34, 54, 73, 113, 143, 146, 157, 159], [4, 29, 34, 42, 44, 54, 73, 113, 143, 146, 157], [73, 157], [34, 73, 143], [22, 29, 73, 120], [22, 73, 146],
    [73, 141], [38, 73], [29, 73, 159], [44, 73, 113, 159], [22, 34, 63, 73, 143, 157], [22, 34, 73, 143],
    [73, 143], [73, 141, 143], [22, 73, 143], [19, 22, 42, 73, 141, 143, 155], [44], [73, 120],
    [19, 73, 159], [73], [25, 44], [29, 113], [29, 41], [29, 73],
    [4, 40, 41], [3, 39, 51, 104, 143, 154, 168], [3, 143, 154], [0, 3, 39, 51, 104, 143, 154, 168], [0, 3, 51, 84, 85, 118, 127, 137, 143], [3, 143],
    [3, 154, 168], [3, 51], [10, 31, 43, 45, 47, 62, 73, 83, 101, 103, 119, 132, 150, 153, 158], [10, 31, 43, 45, 47, 62, 73, 83, 103, 119, 150, 153, 158], [10, 31, 33, 43, 45, 46, 47, 62, 70, 81, 83, 87, 101, 109, 119, 136, 142, 149, 150, 153, 158], [10, 31, 33, 43, 45, 46, 47, 48, 62, 70, 75, 81, 83, 87, 101, 109, 119, 136, 142, 149, 150, 153, 158],
    [31, 33, 61, 81], [10, 20, 142], [47, 97], [45, 69], [43, 150], [62, 101, 161],
    [20, 98, 146], [40, 41, 73], [129], [16, 52, 144, 145], [95, 125], [10, 31, 43, 62],
    [31], [31, 43, 62], [10, 31, 103, 153, 158], [10, 31, 153], [31, 103, 132], [10, 31, 103, 153],
    [31, 132], [31, 62, 83, 119, 150, 153], [10, 31], [31, 103, 158], [31, 101, 103], [10, 31, 132],
    [31, 103], [10, 31, 103, 132], [10, 31, 43, 62, 83, 101, 119, 136, 153, 158, 161], [31, 43], [31, 43, 62, 161], [10],
    [101], [29, 73, 143], [143], [73, 95, 125], [0, 3], [18, 40, 41, 79, 110, 117],
    [18, 44, 92, 110], [31, 43, 73], [25, 73], [5, 117], [5, 18, 40, 61, 80, 110, 130], [34],
    [0, 3, 110], [49, 152], [12, 49, 50, 55, 63, 95, 169], [12, 49, 50, 55, 63, 95, 125, 169], [12, 49, 50, 55, 63], [49],
    [12, 49, 50, 55, 63, 95, 156, 169], [12, 49, 50, 55, 63, 78, 95, 156, 169], [12, 49, 50, 55, 63, 169], [12, 49], [55, 63], [49, 55, 63],
    [49, 73], [31, 33, 45, 47, 61, 62, 69, 70, 81, 83, 94, 101, 132, 149, 158, 161], [31, 33, 45, 47, 61, 62, 69, 70, 81, 94, 101, 132, 149, 158, 161], [31, 33, 45, 47, 61, 69, 70, 81, 94, 149, 158], [31, 33, 45, 47, 61, 69, 70, 81, 94, 132, 149, 158], [10, 31, 161],
    [31, 150], [65, 73, 98], [15, 60], [3, 104], [3, 154], [27, 28, 77],
    [27, 77], [27, 76, 77], [3, 25], [85, 118]]

def scriptLabel? (name : String) : Option Nat := scriptNames.findIdx? (·.contains name)

def script? (name : String) : Option CharSet :=
  (scriptLabel? name).map fun i => scriptRuns.select (· == i)

def scriptExtension? (name : String) : Option CharSet :=
  (scriptLabel? name).map fun i =>
    let extended := extensionRuns.select (· < extensionSets.length)
    CharSet.union (CharSet.diff (scriptRuns.select (· == i)) extended)
      (extensionRuns.select fun l => (extensionSets.getD l []).contains i)

end HeatStack.Unicode
