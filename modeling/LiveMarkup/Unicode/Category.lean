import LiveMarkup.Unicode.Table

/-!
The general category of the characters, and the names of the categories.
-/

namespace LiveMarkup.Unicode

/-- The two letters of a category stand after the length of each run of it. -/
def categoryRuns : List Run :=
  runs
    ["32CcZs3PoSc3PoPsPePoSmPoPd2Po10Nd2Po3Sm2Po26LuPsPoPeSkPcSk26LlPsSmPeSm33CcZsPo4ScSoPoSkSoL",
     "oPiSmCfSoSkSoSm2NoSkLl2PoSkNoLoPf3NoPo23LuSm7Lu24LlSm8LlLuLlLuLlLuLlLuLlLuLlLuLlLuLlLuLlLu",
     "LlLuLlLuLlLuLlLuLlLuLlLuLlLuLlLuLlLuLlLuLlLuLlLuLlLuLlLuLlLuLlLuLlLuLlLuLlLu2LlLuLlLuLlLuL",
     "lLuLlLuLlLuLlLuLlLu2LlLuLlLuLlLuLlLuLlLuLlLuLlLuLlLuLlLuLlLuLlLuLlLuLlLuLlLuLlLuLlLuLlLuLl",
     "LuLlLuLlLuLlLuLlLuLlLuLl2LuLlLuLlLu3Ll2LuLlLuLl2LuLl3Lu2Ll4LuLl2LuLl3Lu3Ll2LuLl2LuLlLuLlLu",
     "Ll2LuLlLu2LlLuLl2LuLl3LuLlLuLl2Lu2LlLoLu3Ll4LoLuLtLlLuLtLlLuLtLlLuLlLuLlLuLlLuLlLuLlLuLlLu",
     "LlLu2LlLuLlLuLlLuLlLuLlLuLlLuLlLuLlLuLlLu2LlLuLtLlLuLl3LuLlLuLlLuLlLuLlLuLlLuLlLuLlLuLlLuL",
     "lLuLlLuLlLuLlLuLlLuLlLuLlLuLlLuLlLuLlLuLlLuLlLuLlLuLlLuLlLuLlLuLlLuLlLuLlLuLlLuLlLu7Ll2LuL",
     "l2Lu2LlLuLl4LuLlLuLlLuLlLuLlLu69LlLo27Ll18Lm4Sk12Lm14Sk5Lm7SkLmSkLm17Sk112MnLuLlLuLlLmSkLu",
     "Ll2CnLm3LlPoLu4Cn2SkLuPo3LuCnLuCn2LuLl17LuCn9Lu35LlLu2Ll3Lu3LlLuLlLuLlLuLlLuLlLuLlLuLlLuLl",
     "LuLlLuLlLuLlLuLlLu5LlLuLlSmLuLl2Lu2Ll51Lu48LlLuLlLuLlLuLlLuLlLuLlLuLlLuLlLuLlLuLlLuLlLuLlL",
     "uLlLuLlLuLlLuLlLuLlLuLlSo5Mn2MeLuLlLuLlLuLlLuLlLuLlLuLlLuLlLuLlLuLlLuLlLuLlLuLlLuLlLuLlLuL",
     "lLuLlLuLlLuLlLuLlLuLlLuLlLuLlLuLlLuLlLuLlLuLlLuLl2LuLlLuLlLuLlLuLlLuLlLuLlLu2LlLuLlLuLlLuL",
     "lLuLlLuLlLuLlLuLlLuLlLuLlLuLlLuLlLuLlLuLlLuLlLuLlLuLlLuLlLuLlLuLlLuLlLuLlLuLlLuLlLuLlLuLlL",
     "uLlLuLlLuLlLuLlLuLlLuLlLuLlLuLlLuLlLuLlLuLlLuLlLuLlLuLlLuLlLuLlLuLlLuLlLuLlLuLlLuLlLuLlLuL",
     "lCn38Lu2CnLm6Po41LlPoPd2Cn2SoScCn45MnPdMnPo2MnPo2MnPoMn8Cn27Lo4Cn4Lo2Po11Cn6Cf3Sm2PoSc2Po2",
     "So11MnPoCf3Po32LoLm10Lo21Mn10Nd4Po2LoMn99LoPoLo7MnCfSo6Mn2Lm2MnSo4Mn2Lo10Nd3Lo2SoLo14PoCnC",
     "fLoMn30Lo27Mn2Cn89Lo11MnLo14Cn10Nd33Lo9Mn2LmSo3PoLm2CnMn2Sc22Lo4MnLm9MnLm3MnLm5Mn2Cn15PoCn",
     "25Lo3Mn2CnPoCn11Lo5Cn24LoSk6LoCn2Cf5Cn9Mn41LoLm24MnCf32MnMc54LoMnMcMnLo3Mc8Mn4McMn2McLo7Mn",
     "10Lo2Mn2Po10NdPoLm15LoMn2McCn8Lo2Cn2Lo2Cn22LoCn7LoCnLo3Cn4Lo2CnMnLo3Mc4Mn2Cn2Mc2Cn2McMnLo8",
     "CnMc4Cn2LoCn3Lo2Mn2Cn10Nd2Lo2Sc6NoSoScLoPoMn2Cn2MnMcCn6Lo4Cn2Lo2Cn22LoCn7LoCn2LoCn2LoCn2Lo",
     "2CnMnCn3Mc2Mn4Cn2Mn2Cn3Mn3CnMn7Cn4LoCnLo7Cn10Nd2Mn3LoMnPo10Cn2MnMcCn9LoCn3LoCn22LoCn7LoCn2",
     "LoCn5Lo2CnMnLo3Mc5MnCn2MnMcCn2McMn2CnLo15Cn2Lo2Mn2Cn10NdPoSc7CnLo6MnCnMn2McCn8Lo2Cn2Lo2Cn2",
     "2LoCn7LoCn2LoCn5Lo2CnMnLoMcMnMc4Mn2Cn2Mc2Cn2McMn7Cn2MnMc4Cn2LoCn3Lo2Mn2Cn10NdSoLo6No10CnMn",
     "LoCn6Lo3Cn3LoCn4Lo3Cn2LoCnLoCn2Lo3Cn2Lo3Cn3Lo3Cn12Lo4Cn2McMn2Mc3Cn3McCn3McMn2CnLo6CnMc14Cn",
     "10Nd3No6SoScSo5CnMn3McMn8LoCn3LoCn23LoCn16Lo2CnMnLo3Mn4McCn3MnCn4Mn7Cn2MnCn3Lo2CnLo2Cn2Lo2",
     "Mn2Cn10Nd7CnPo7NoSoLoMn2McPo8LoCn3LoCn23LoCn10LoCn5Lo2CnMnLoMcMn5McCnMn2McCn2Mc2Mn7Cn2Mc6C",
     "n2LoCn2Lo2Mn2Cn10NdCn2LoMc12Cn2Mn2Mc9LoCn3LoCn41Lo2MnLo3Mc4MnCn3McCn3McMnLoSo4Cn3LoMc7No3L",
     "o2Mn2Cn10Nd9NoSo6LoCnMn2McCn18Lo3Cn24LoCn9LoCnLo2Cn7Lo3CnMn4Cn3Mc3MnCnMnCn8Mc6Cn10Nd2Cn2Mc",
     "Po12Cn48LoMn2Lo7Mn4CnSc6LoLm8MnPo10Nd2Po37Cn2LoCnLoCn5LoCn24LoCnLoCn10LoMn2Lo9MnLo2Cn5LoCn",
     "LmCn7MnCn10Nd2Cn4Lo32CnLo3So15PoSoPo3So2Mn6So10Nd10NoSoMnSoMnSoMnPsPePsPe2Mc8LoCn36Lo4Cn14",
     "MnMc5MnPo2Mn5Lo11MnCn36MnCn8SoMn6SoCn2So5Po4So2Po37Cn43Lo2Mc4MnMc6MnMc2Mn2Mc2MnLo10Nd6Po6L",
     "o2Mc2Mn4Lo3MnLo3Mc2Lo7Mc3Lo4Mn13LoMn2Mc2Mn6McMnLoMc10Nd3McMn2So38LuCnLu5CnLu2Cn43LlPoLm3Ll",
     "329LoCn4Lo2Cn7LoCnLoCn4Lo2Cn41LoCn4Lo2Cn33LoCn4Lo2Cn7LoCnLoCn4Lo2Cn15LoCn57LoCn4Lo2Cn67Lo2",
     "Cn3Mn9Po20No3Cn16Lo10So6Cn86Lu2Cn6Ll2CnPd620LoSoPo17LoZs26LoPsPe3Cn75Lo3Po3Nl8Lo7Cn18Lo3Mn",
     "Mc9Cn19Lo2MnMc2Po9Cn18Lo2Mn12Cn13LoCn3LoCn2Mn12Cn52Lo2MnMc7Mn8McMn2Mc11Mn3PoLm3PoScLoMn2Cn",
     "10Nd6Cn10No6Cn6PoPd4Po3MnCfMn10Nd6Cn35LoLm53Lo7Cn5Lo2Mn34LoMnLo5Cn70Lo10Cn31LoCn3Mn4Mc2Mn3",
     "Mc4Cn2McMn6Mc3Mn4CnSo3Cn2Po10Nd30Lo2Cn5Lo11Cn44Lo4Cn26Lo6Cn10NdNo3Cn34So23Lo2Mn2McMn2Cn2Po",
     "53LoMcMnMc7MnCnMnMcMn2Mc8Mn6Mc10Mn2CnMn10Nd6Cn10Nd6Cn7PoLm6Po2Cn14MnMe16Mn49Cn4MnMc47LoMnM",
     "c5MnMcMn5McMn2Mc8LoCn2Po10Nd7Po10So9Mn9So3Po2MnMc30LoMc4Mn2Mc2MnMc3Mn2Lo10Nd44LoMnMc2Mn3Mc",
     "MnMc3Mn2Mc8Cn4Po36Lo8Mc8Mn2Mc2Mn3Cn5Po10Nd3Cn3Lo10Nd30Lo6Lm2Po9LlLuLl5Cn43Lu2Cn3Lu8Po8Cn3M",
     "nPo13MnMc7Mn4LoMn6LoMn2LoMc2MnLo5Cn44Ll63Lm13LlLm34Ll37Lm64MnLuLlLuLlLuLlLuLlLuLlLuLlLuLlL",
     "uLlLuLlLuLlLuLlLuLlLuLlLuLlLuLlLuLlLuLlLuLlLuLlLuLlLuLlLuLlLuLlLuLlLuLlLuLlLuLlLuLlLuLlLuL",
     "lLuLlLuLlLuLlLuLlLuLlLuLlLuLlLuLlLuLlLuLlLuLlLuLlLuLlLuLlLuLlLuLlLuLlLuLlLuLlLuLlLuLlLuLlL",
     "uLlLuLlLuLlLuLlLuLlLuLlLuLlLuLlLuLlLuLlLuLlLuLlLuLlLuLlLuLlLuLlLuLlLuLlLuLlLuLlLuLlLuLlLu9",
     "LlLuLlLuLlLuLlLuLlLuLlLuLlLuLlLuLlLuLlLuLlLuLlLuLlLuLlLuLlLuLlLuLlLuLlLuLlLuLlLuLlLuLlLuLl",
     "LuLlLuLlLuLlLuLlLuLlLuLlLuLlLuLlLuLlLuLlLuLlLuLlLuLlLuLlLuLlLuLlLuLlLuLlLuLlLuLlLuLlLuLlLu",
     "LlLuLlLuLlLuLlLu9Ll8Lu6Ll2Cn6Lu2Cn8Ll8Lu8Ll8Lu6Ll2Cn6Lu2Cn8LlCnLuCnLuCnLuCnLu8Ll8Lu14Ll2Cn",
     "8Ll8Lt8Ll8Lt8Ll8Lt5LlCn2Ll4LuLtSkLl3Sk3LlCn2Ll4LuLt3Sk4Ll2Cn2Ll4LuCn3Sk8Ll5Lu3Sk2Cn3LlCn2L",
     "l4LuLt2SkCn11Zs5Cf6Pd2PoPiPfPs2PiPfPsPi8PoZlZp5CfZs9PoPiPf4Po2Pc3PoSmPsPe11PoSmPoPc10PoZs5",
     "CfCn10CfNoLm2Cn6No3SmPsPeLm10No3SmPsPeCn13Lm3Cn33Sc15Cn13Mn4MeMn3Me12Mn15Cn2SoLu4SoLu2SoLl",
     "3Lu2Ll3LuLlSoLu2SoSm5Lu6SoLuSoLuSoLuSo4LuSoLl4LuLl4LoLl2So2Ll2Lu5SmLu4LlSoSm2SoLlSo16No35N",
     "lLuLl4NlNo2So4Cn5Sm5So2Sm4SoSm2SoSm2SoSm7SoSm31So2Sm2SoSmSoSm31So268Sm8SoPsPePsPe20So2Sm7S",
     "oPsPe81SoSm30So25Sm40So6Sm72So22Cn11So21Cn60No78So22No183SoSm9SoSm54So8Sm111SoSm248SoPsPeP",
     "sPePsPePsPePsPePsPePsPe30No44So5SmPsPe31SmPsPePsPePsPePsPePsPe16Sm256So131SmPsPePsPePsPePs",
     "PePsPePsPePsPePsPePsPePsPePsPe63SmPsPePsPe32SmPsPe258Sm48So21Sm2So6Sm39So2Cn32SoCn105So48L",
     "u48LlLuLl3Lu2LlLuLlLuLlLuLl4LuLlLu2LlLu6Ll2Lm3LuLlLuLlLuLlLuLlLuLlLuLlLuLlLuLlLuLlLuLlLuLl",
     "LuLlLuLlLuLlLuLlLuLlLuLlLuLlLuLlLuLlLuLlLuLlLuLlLuLlLuLlLuLlLuLlLuLlLuLlLuLlLuLlLuLlLuLlLu",
     "LlLuLlLuLlLuLlLuLlLuLlLuLlLuLlLuLlLuLlLuLlLuLlLuLlLuLlLuLlLuLlLu2Ll6SoLuLlLuLl3MnLuLl5Cn4P",
     "oNo2Po38LlCnLl5CnLl2Cn56Lo7CnLmPo14CnMn23Lo9Cn7LoCn7LoCn7LoCn7LoCn7LoCn7LoCn7LoCn7LoCn32Mn",
     "2PoPiPfPiPf3PoPiPfPoPiPf9PoPd2PoPdPoPiPf2PoPiPfPsPePsPePsPePsPe5PoLm10Po2Pd4PoPdPoPs13Po2S",
     "o3PoPsPePsPePsPePsPePd34Cn26SoCn89So12Cn214So26Cn16SoZs3PoSoLmLoNlPsPePsPePsPePsPePsPe2SoP",
     "sPePsPePsPePsPePdPs2PeSo9Nl4Mn2McPd5Lm2So3NlLmLoPo2SoCn86Lo2Cn2Mn2Sk2LmLoPd90LoPo3LmLo5Cn4",
     "3LoCn94LoCn2So4No10So32Lo38So9CnSo16Lo31SoCn10No30So8NoSo15No32So10No39So15No320So6592Lo64",
     "So21013LoLm1143Lo3Cn55So9Cn40Lo6Lm2Po268LoLm3Po16Lo10Nd2Lo20CnLuLlLuLlLuLlLuLlLuLlLuLlLuLl",
     "LuLlLuLlLuLlLuLlLuLlLuLlLuLlLuLlLuLlLuLlLuLlLuLlLuLlLuLlLuLlLuLlLoMn3MePo10MnPoLmLuLlLuLlL",
     "uLlLuLlLuLlLuLlLuLlLuLlLuLlLuLlLuLlLuLlLuLlLuLl2Lm2Mn70Lo10Nl2Mn6Po8Cn23Sk9Lm2SkLuLlLuLlLu",
     "LlLuLlLuLlLuLlLu3LlLuLlLuLlLuLlLuLlLuLlLuLlLuLlLuLlLuLlLuLlLuLlLuLlLuLlLuLlLuLlLuLlLuLlLuL",
     "lLuLlLuLlLuLlLuLlLuLlLuLlLuLlLuLlLuLlLuLlLuLlLuLlLuLlLm8LlLuLlLuLl2LuLlLuLlLuLlLuLlLuLlLm2",
     "SkLuLlLuLlLoLuLlLu3LlLuLlLuLlLuLlLuLlLuLlLuLlLuLlLuLlLuLlLuLl5LuLl5LuLlLuLlLuLlLuLlLuLlLuL",
     "lLuLlLuLl4LuLlLuLl2LuLl2CnLuLlCnLlCnLlLuLlLuLlLuLlLu21Cn3LmLuLlLo2LmLl7LoMn3LoMn4LoMn23Lo2",
     "Mc2MnMc4SoMn3Cn6No2SoScSo6Cn52Lo4Po8Cn2Mc50Lo16Mc2Mn8Cn2Po10Nd6Cn18Mn6Lo3PoLoPo2LoMn10Nd28",
     "Lo8Mn2Po23Lo11Mn2Mc11CnPo29Lo3Cn3MnMc47LoMn2Mc4Mn2Mc2Mn3Mc13PoCnLm10Nd4Cn2Po5LoMnLm9Lo10Nd",
     "5LoCn41Lo6Mn2Mc2Mn2Mc2Mn9Cn3LoMn8LoMnMc2Cn10Nd2Cn4Po16LoLm6Lo3SoLoMcMnMc50LoMnLo3Mn2Lo2Mn5",
     "Lo2MnLoMnLo24Cn2LoLm2Po11LoMc2Mn2Mc2PoLo2LmMcMn10Cn6Lo2Cn6Lo2Cn6Lo9Cn7LoCn7LoCn43LlSk4Lm9L",
     "lLm2Sk4Cn80Ll35Lo2McMn2McMn2McPoMcMn2Cn10Nd6Cn11172Lo12Cn23Lo4Cn49Lo4Cn2048Cs6400Co366Lo2C",
     "n106Lo38Cn7Ll12Cn5Ll5CnLoMn10LoSm13LoCn5LoCnLoCn2LoCn2LoCn108Lo17Sk16Cn363LoPePs16So64Lo2C",
     "n54Lo7CnSo32Cn12LoSc3So16Mn7PoPsPePo6Cn16MnPo2Pd2PcPsPePsPePsPePsPePsPePsPePsPePsPe2PoPsPe",
     "4Po3Pc3PoCn4PoPdPsPePsPePsPe3PoSmPd3SmCnPoSc2Po4Cn5LoCn135Lo2CnCfCn3PoSc3PoPsPePoSmPoPd2Po",
     "10Nd2Po3Sm2Po26LuPsPoPeSkPcSk26LlPsSmPeSmPsPePoPsPe2Po10LoLm45Lo2Lm31Lo3Cn6Lo2Cn6Lo2Cn6Lo2",
     "Cn3Lo3Cn2ScSmSkSo2ScCnSo4Sm2So10Cn3Cf2So2Cn12LoCn26LoCn19LoCn2LoCn15Lo2Cn14Lo34Cn123Lo5Cn3",
     "Po4Cn45No3Cn9So53Nl4No17So2No3SoCn13So3CnSo47Cn45SoMn130Cn29Lo3Cn49Lo15CnMn27No4Cn32Lo4No9",
     "Cn20LoNl8LoNl5Cn38Lo5Mn5Cn30LoCnPo36Lo4Cn8LoPo5Nl42Cn40Lu40Ll78Lo2Cn10Nd6Cn36Lu4Cn36Ll4Cn4",
     "0Lo8Cn52Lo11CnPo11LuCn15LuCn7LuCn2LuCn11LlCn15LlCn7LlCn2Ll3Cn52Lo12Cn311Lo9Cn22Lo10Cn8Lo24",
     "Cn6LmCn42LmCn9Lm69Cn6Lo2CnLoCn44LoCn2Lo3CnLo2Cn23LoCnPo8No23Lo2So7No31Lo8Cn9No48Cn19LoCn2L",
     "o5Cn5No22Lo6No3CnPo26Lo5CnPo64Cn56Lo4Cn2No2Lo16No2Cn46NoLo3MnCn2Mn5Cn4Mn4LoCn3LoCn29Lo2Cn3",
     "Mn4CnMn9No7Cn9Po7Cn29Lo2NoPo29Lo3No32Cn8LoSo28Lo2Mn4Cn5No7Po9Cn54Lo3Cn7Po22Lo2Cn8No19Lo5Cn",
     "8No18Lo7Cn4Po12Cn7No80Cn73Lo55Cn51Lu13Cn51Ll7Cn6No36Lo4Mn8Cn10Nd6Cn10Nd4LoLmLo22Lu3Cn5MnPd",
     "Lm22Ll8Cn2Sm208Cn31NoCn42LoCn2MnPd2Cn2Lo16Cn3Lo55Cn4Mn29Lo10NoLo8Cn22Lo11Mn4No5Po22Cn18Lo4",
     "Mn4Po38Cn21Lo7No20Cn23Lo9CnMcMnMc53Lo15Mn7Po4Cn20No10NdMn2Lo2MnLo9Cn3MnMc45Lo3Mc4Mn2Mc2Mn2",
     "PoCf4PoMn10CnCf2Cn25Lo7Cn10Nd6Cn3Mn36Lo5MnMc8MnCn10Nd4PoLo2McLo8Cn35LoMn2PoLo9Cn2MnMc48Lo3",
     "Mc9Mn2Mc4Lo4Po4MnPoMcMn10NdLoPoLo3PoCn20No11Cn18LoCn25Lo3Mc3Mn2McMnMc2Mn6PoMn2LoMn62Cn7LoC",
     "nLoCn4LoCn15LoCn10LoPo6Cn47LoMn3Mc8Mn5Cn10Nd6Cn2Mn2McCn8Lo2Cn2Lo2Cn22LoCn7LoCn2LoCn5LoCn2M",
     "nLo2McMn4Mc2Cn2Mc2Cn3Mc2CnLo6CnMc5Cn5Lo2Mc2Cn7Mn3Cn5Mn11Cn10LoCnLo2CnLoCn38LoCnLo3Mc6MnCnM",
     "c2CnMcCn4McCn2McMnMcMnLoMnLo2PoCn2Po8Cn2Mn29Cn53Lo3Mc8Mn2Mc3MnMcMn4Lo5Po10Nd2PoCnPoMn3Lo30",
     "Cn48Lo3Mc6MnMcMn4Mc2MnMc2Mn2LoPoLo8Cn10Nd166Cn47Lo3Mc4Mn2Cn4Mc2MnMc2Mn23Po4Lo2Mn34Cn48Lo3M",
     "c8Mn2McMnMc2Mn3PoLo11Cn10Nd6Cn13Po19Cn43LoMnMcMn2Mc6MnMcMnLoPo6Cn10Nd6Cn20Nd28Cn27Lo2CnMnM",
     "cMn2Mc4MnMc5Mn4Cn10Nd2No3PoSo7Lo185Cn44Lo3Mc9MnMc2MnPo100Cn32Lu32Ll10Nd9No12Cn8Lo2CnLo2Cn8",
     "LoCn2LoCn24Lo6McCn2Mc2Cn2MnMcMnLoMcLoMcMn3Po9Cn10Nd70Cn8Lo2Cn39Lo3Mc4Mn2Cn2Mn4McMnLoPoLoMc",
     "27CnLo10Mn40Lo6MnMcLo4Mn8PoMn8CnLo6Mn2Mc3Mn46Lo13MnMc2Mn3PoLo5Po13Cn73Lo7Cn10Po182Cn33LoPo",
     "14Cn10Nd6Cn9LoCn37LoMc7MnCn6MnMcMnLo5Po10Cn10Nd19No3Cn2Po30Lo2Cn22MnCnMc7MnMc2MnMc2Mn73Cn7",
     "LoCn2LoCn38Lo6Mn3CnMnCn2MnCn7MnLoMn8Cn10Nd6Cn6LoCn2LoCn32Lo5McCn2MnCn2McMnMcMnLo7Cn10Nd310",
     "Cn19Lo2Mn2Mc2Po7Cn2MnLoMc13LoCn34Lo2Mc5Mn3Cn2McMnMcMn13Po10NdMn85CnLo15Cn21No8So4Sc17So13C",
     "nPo922Lo102Cn111NlCn5Po11Cn196Lo2636Cn97Lo2Po13Cn1072Lo16CfMn6Lo15Mn10Cn3995Lo5Cn583Lo6841",
     "Cn30Lo12Mn3Mc3Mn10Nd1734Cn569Lo7Cn31LoCn10Nd4Cn2Po79LoCn10Nd6Cn30Lo2Cn5MnPo10Cn48Lo7Mn5Po4",
     "So4LmPoSo10Cn10NdCn7NoCn21Lo5Cn19Lo432Cn3Lm40Lo2Lm3Po10Nd198Cn32Lu32Ll23No4Po101Cn75Lo4CnM",
     "nLo55Mc7Cn4Mn13Lm64Cn2LmPoLmMn11Cn2Mc14Cn6136Lo8Cn1238Lo41Cn10Lo8935Cn4LmCn7LmCn2LmCn291Lo",
     "15CnLo29Cn3Lo2CnLo14Cn4Lo8Cn396Lo2308Cn107Lo5Cn13Lo3Cn9Lo7Cn10Lo2CnSo2MnPo4Cf3932Cn240So10",
     "Nd6Cn436So76Cn46Mn2Cn23Mn9Cn116So60Cn246So10Cn39So2Cn60So2Mc3Mn3So6Mc8Cf8Mn2So7Mn30So4Mn61",
     "So21Cn66So3MnSo122Cn20No12Cn20No12Cn87So9Cn25No135Cn26Lu26Ll26Lu7LlCn18Ll26Lu26LlLuCn2Lu2C",
     "nLu2Cn2Lu2Cn4LuCn8Lu4LlCnLlCn7LlCn11Ll26Lu26Ll2LuCn4Lu2Cn8LuCn7LuCn26Ll2LuCn4LuCn5LuCnLu3C",
     "n7LuCn26Ll26Lu26Ll26Lu26Ll26Lu26Ll26Lu26Ll26Lu26Ll26Lu28Ll2Cn25LuSm25LlSm6Ll25LuSm25LlSm6L",
     "l25LuSm25LlSm6Ll25LuSm25LlSm6Ll25LuSm25LlSm6LlLuLl2Cn50Nd512So55Mn4So50Mn8SoMn14SoMn2So5Po",
     "15Cn5MnCn15Mn1104Cn10LlLo20Ll6Cn6Ll213Cn7MnCn17Mn2Cn7MnCn2MnCn5Mn5Cn62Lm33CnMn112Cn45Lo3Cn",
     "7Mn7Lm2Cn10Nd4CnLoSo320Cn30LoMn17Cn44Lo4Mn10Nd5CnSc464Cn27LoLm4Mn10Nd214Cn30Lo2MnLo10Nd4Cn",
     "Po480Cn7LoCn4LoCn2LoCn15LoCn197Lo2Cn9No7Mn41Cn34Lu34Ll7MnLm4Cn10Nd4Cn2Po785Cn59NoSo3NoSc4N",
     "o76Cn45NoSo15No194Cn4LoCn27LoCn2LoCnLo2CnLoCn10LoCn4LoCnLoCnLo6CnLo4CnLoCnLoCnLoCn3LoCn2Lo",
     "CnLo2CnLoCnLoCnLoCnLoCnLoCn2LoCnLo2Cn4LoCn7LoCn4LoCn4LoCnLoCn10LoCn17Lo5Cn3LoCn5LoCn17Lo52",
     "Cn2Sm270Cn44So4Cn100So12Cn15So2Cn15SoCn15SoCn37So10Cn13No161So56Cn29So13Cn44So4Cn9So7Cn2So",
     "14Cn6So154Cn251So5Sk728So4Cn17So3Cn13So3Cn119So4Cn95So6Cn12So4CnSo15Cn12So4Cn56So8Cn10So6C",
     "n40So8Cn30So2Cn12So4Cn2So62Cn340So12Cn14So2Cn13So3Cn10So5Cn56So7Cn15So2Cn11So6Cn9So7Cn147S",
     "oCn92So10Nd1030Cn42720Lo32Cn4154Lo6Cn222Lo2Cn5762Lo14Cn7473Lo15Cn622Lo2466Cn542Lo1506Cn493",
     "9Lo5Cn4192Lo711761CnCf30Cn96Cf128Cn240Mn65040Cn65534Co2Cn65534Co2Cn"]

/-- The characters of some categories, which are named by their two letters. -/
def inCategories (short : List String) : CharSet :=
  select categoryRuns fun value => short.any (·.toList == value)

/-- The names of the categories, in lower case and without separators, with the categories that
they take in. Surrogates are no characters, so their category has no name. -/
def categoryNames : List (List String × List String) :=
  [(["c", "other"], ["Cc", "Cf", "Cn", "Co"]),
   (["cc", "control", "cntrl"], ["Cc"]),
   (["cf", "format"], ["Cf"]),
   (["cn", "unassigned"], ["Cn"]),
   (["co", "privateuse"], ["Co"]),
   (["l", "letter"], ["Lu", "Ll", "Lt", "Lm", "Lo"]),
   (["lc", "casedletter"], ["Lu", "Ll", "Lt"]),
   (["ll", "lowercaseletter"], ["Ll"]),
   (["lm", "modifierletter"], ["Lm"]),
   (["lo", "otherletter"], ["Lo"]),
   (["lt", "titlecaseletter"], ["Lt"]),
   (["lu", "uppercaseletter"], ["Lu"]),
   (["m", "mark", "combiningmark"], ["Mc", "Me", "Mn"]),
   (["mc", "spacingmark"], ["Mc"]),
   (["me", "enclosingmark"], ["Me"]),
   (["mn", "nonspacingmark"], ["Mn"]),
   (["n", "number"], ["Nd", "Nl", "No"]),
   (["nd", "decimalnumber", "digit"], ["Nd"]),
   (["nl", "letternumber"], ["Nl"]),
   (["no", "othernumber"], ["No"]),
   (["p", "punctuation", "punct"], ["Pc", "Pd", "Pe", "Pf", "Pi", "Po", "Ps"]),
   (["pc", "connectorpunctuation"], ["Pc"]),
   (["pd", "dashpunctuation"], ["Pd"]),
   (["pe", "closepunctuation"], ["Pe"]),
   (["pf", "finalpunctuation"], ["Pf"]),
   (["pi", "initialpunctuation"], ["Pi"]),
   (["po", "otherpunctuation"], ["Po"]),
   (["ps", "openpunctuation"], ["Ps"]),
   (["s", "symbol"], ["Sc", "Sk", "Sm", "So"]),
   (["sc", "currencysymbol"], ["Sc"]),
   (["sk", "modifiersymbol"], ["Sk"]),
   (["sm", "mathsymbol"], ["Sm"]),
   (["so", "othersymbol"], ["So"]),
   (["z", "separator"], ["Zl", "Zp", "Zs"]),
   (["zl", "lineseparator"], ["Zl"]),
   (["zp", "paragraphseparator"], ["Zp"]),
   (["zs", "spaceseparator"], ["Zs"])]

/-- The category of a name; three names take in more than the categories have. -/
def category? (name : Text) : Option CharSet :=
  if name = "any".toList then some .all
  else if name = "assigned".toList then some (.compl (inCategories ["Cn"]))
  else if name = "ascii".toList then some (.range 0 0x7F)
  else (categoryNames.find? (·.1.any (·.toList == name))).map (inCategories ·.2)

end LiveMarkup.Unicode
