import EndpointMonitor.Character.Runs

/-!
# General categories of characters

Every code point has one general category, whose code has two letters; the first one stands for
a group of categories.
-/

namespace EndpointMonitor.Category

/-- The runs of one category. -/
def table : List String := [
  "20Cc1Zs3Po1Sc3Po1Ps1Pe1Po1Sm1Po1Pd2PoaNd2Po3Sm2Po1aLu1Ps1Po1Pe1Sk1Pc1Sk1aLl1Ps1Sm1Pe1Sm21Cc1Zs",
  "1Po4Sc1So1Po1Sk1So1Lo1Pi1Sm1Cf1So1Sk1So1Sm2No1Sk1Ll2Po1Sk1No1Lo1Pf3No1Po17Lu1Sm7Lu18Ll1Sm8Ll",
  "1Lu1Ll1Lu1Ll1Lu1Ll1Lu1Ll1Lu1Ll1Lu1Ll1Lu1Ll1Lu1Ll1Lu1Ll1Lu1Ll1Lu1Ll1Lu1Ll1Lu1Ll1Lu1Ll1Lu1Ll1Lu",
  "1Ll1Lu1Ll1Lu1Ll1Lu1Ll1Lu1Ll1Lu1Ll1Lu1Ll1Lu1Ll1Lu1Ll1Lu1Ll1Lu1Ll1Lu1Ll1Lu2Ll1Lu1Ll1Lu1Ll1Lu1Ll",
  "1Lu1Ll1Lu1Ll1Lu1Ll1Lu1Ll1Lu2Ll1Lu1Ll1Lu1Ll1Lu1Ll1Lu1Ll1Lu1Ll1Lu1Ll1Lu1Ll1Lu1Ll1Lu1Ll1Lu1Ll1Lu",
  "1Ll1Lu1Ll1Lu1Ll1Lu1Ll1Lu1Ll1Lu1Ll1Lu1Ll1Lu1Ll1Lu1Ll1Lu1Ll1Lu1Ll1Lu1Ll1Lu1Ll2Lu1Ll1Lu1Ll1Lu3Ll",
  "2Lu1Ll1Lu1Ll2Lu1Ll3Lu2Ll4Lu1Ll2Lu1Ll3Lu3Ll2Lu1Ll2Lu1Ll1Lu1Ll1Lu1Ll2Lu1Ll1Lu2Ll1Lu1Ll2Lu1Ll3Lu",
  "1Ll1Lu1Ll2Lu2Ll1Lo1Lu3Ll4Lo1Lu1Lt1Ll1Lu1Lt1Ll1Lu1Lt1Ll1Lu1Ll1Lu1Ll1Lu1Ll1Lu1Ll1Lu1Ll1Lu1Ll1Lu",
  "1Ll1Lu2Ll1Lu1Ll1Lu1Ll1Lu1Ll1Lu1Ll1Lu1Ll1Lu1Ll1Lu1Ll1Lu1Ll1Lu2Ll1Lu1Lt1Ll1Lu1Ll3Lu1Ll1Lu1Ll1Lu",
  "1Ll1Lu1Ll1Lu1Ll1Lu1Ll1Lu1Ll1Lu1Ll1Lu1Ll1Lu1Ll1Lu1Ll1Lu1Ll1Lu1Ll1Lu1Ll1Lu1Ll1Lu1Ll1Lu1Ll1Lu1Ll",
  "1Lu1Ll1Lu1Ll1Lu1Ll1Lu1Ll1Lu1Ll1Lu1Ll1Lu1Ll1Lu1Ll1Lu1Ll1Lu1Ll1Lu1Ll1Lu7Ll2Lu1Ll2Lu2Ll1Lu1Ll4Lu",
  "1Ll1Lu1Ll1Lu1Ll1Lu1Ll1Lu45Ll1Lo1bLl12Lm4SkcLmeSk5Lm7Sk1Lm1Sk1Lm11Sk70Mn1Lu1Ll1Lu1Ll1Lm1Sk1Lu",
  "1Ll2Cn1Lm3Ll1Po1Lu4Cn2Sk1Lu1Po3Lu1Cn1Lu1Cn2Lu1Ll11Lu1Cn9Lu23Ll1Lu2Ll3Lu3Ll1Lu1Ll1Lu1Ll1Lu1Ll",
  "1Lu1Ll1Lu1Ll1Lu1Ll1Lu1Ll1Lu1Ll1Lu1Ll1Lu1Ll1Lu1Ll1Lu5Ll1Lu1Ll1Sm1Lu1Ll2Lu2Ll33Lu30Ll1Lu1Ll1Lu",
  "1Ll1Lu1Ll1Lu1Ll1Lu1Ll1Lu1Ll1Lu1Ll1Lu1Ll1Lu1Ll1Lu1Ll1Lu1Ll1Lu1Ll1Lu1Ll1Lu1Ll1Lu1Ll1Lu1Ll1Lu1Ll",
  "1So5Mn2Me1Lu1Ll1Lu1Ll1Lu1Ll1Lu1Ll1Lu1Ll1Lu1Ll1Lu1Ll1Lu1Ll1Lu1Ll1Lu1Ll1Lu1Ll1Lu1Ll1Lu1Ll1Lu1Ll",
  "1Lu1Ll1Lu1Ll1Lu1Ll1Lu1Ll1Lu1Ll1Lu1Ll1Lu1Ll1Lu1Ll1Lu1Ll1Lu1Ll1Lu1Ll1Lu1Ll1Lu1Ll2Lu1Ll1Lu1Ll1Lu",
  "1Ll1Lu1Ll1Lu1Ll1Lu1Ll1Lu2Ll1Lu1Ll1Lu1Ll1Lu1Ll1Lu1Ll1Lu1Ll1Lu1Ll1Lu1Ll1Lu1Ll1Lu1Ll1Lu1Ll1Lu1Ll",
  "1Lu1Ll1Lu1Ll1Lu1Ll1Lu1Ll1Lu1Ll1Lu1Ll1Lu1Ll1Lu1Ll1Lu1Ll1Lu1Ll1Lu1Ll1Lu1Ll1Lu1Ll1Lu1Ll1Lu1Ll1Lu",
  "1Ll1Lu1Ll1Lu1Ll1Lu1Ll1Lu1Ll1Lu1Ll1Lu1Ll1Lu1Ll1Lu1Ll1Lu1Ll1Lu1Ll1Lu1Ll1Lu1Ll1Lu1Ll1Lu1Ll1Lu1Ll",
  "1Lu1Ll1Lu1Ll1Lu1Ll1Lu1Ll1Lu1Ll1Lu1Ll1Cn26Lu2Cn1Lm6Po29Ll1Po1Pd2Cn2So1Sc1Cn2dMn1Pd1Mn1Po2Mn1Po",
  "2Mn1Po1Mn8Cn1bLo4Cn4Lo2PobCn6Cf3Sm2Po1Sc2Po2SobMn1Po1Cf3Po20Lo1LmaLo15MnaNd4Po2Lo1Mn63Lo1Po1Lo",
  "7Mn1Cf1So6Mn2Lm2Mn1So4Mn2LoaNd3Lo2So1LoePo1Cn1Cf1Lo1Mn1eLo1bMn2Cn59LobMn1LoeCnaNd21Lo9Mn2Lm1So",
  "3Po1Lm2Cn1Mn2Sc16Lo4Mn1Lm9Mn1Lm3Mn1Lm5Mn2CnfPo1Cn19Lo3Mn2Cn1Po1CnbLo5Cn18Lo1Sk6Lo1Cn2Cf5Cn9Mn",
  "29Lo1Lm18Mn1Cf20Mn1Mc36Lo1Mn1Mc1Mn1Lo3Mc8Mn4Mc1Mn2Mc1Lo7MnaLo2Mn2PoaNd1Po1LmfLo1Mn2Mc1Cn8Lo2Cn",
  "2Lo2Cn16Lo1Cn7Lo1Cn1Lo3Cn4Lo2Cn1Mn1Lo3Mc4Mn2Cn2Mc2Cn2Mc1Mn1Lo8Cn1Mc4Cn2Lo1Cn3Lo2Mn2CnaNd2Lo2Sc",
  "6No1So1Sc1Lo1Po1Mn2Cn2Mn1Mc1Cn6Lo4Cn2Lo2Cn16Lo1Cn7Lo1Cn2Lo1Cn2Lo1Cn2Lo2Cn1Mn1Cn3Mc2Mn4Cn2Mn2Cn",
  "3Mn3Cn1Mn7Cn4Lo1Cn1Lo7CnaNd2Mn3Lo1Mn1PoaCn2Mn1Mc1Cn9Lo1Cn3Lo1Cn16Lo1Cn7Lo1Cn2Lo1Cn5Lo2Cn1Mn1Lo",
  "3Mc5Mn1Cn2Mn1Mc1Cn2Mc1Mn2Cn1LofCn2Lo2Mn2CnaNd1Po1Sc7Cn1Lo6Mn1Cn1Mn2Mc1Cn8Lo2Cn2Lo2Cn16Lo1Cn7Lo",
  "1Cn2Lo1Cn5Lo2Cn1Mn1Lo1Mc1Mn1Mc4Mn2Cn2Mc2Cn2Mc1Mn7Cn2Mn1Mc4Cn2Lo1Cn3Lo2Mn2CnaNd1So1Lo6NoaCn1Mn",
  "1Lo1Cn6Lo3Cn3Lo1Cn4Lo3Cn2Lo1Cn1Lo1Cn2Lo3Cn2Lo3Cn3Lo3CncLo4Cn2Mc1Mn2Mc3Cn3Mc1Cn3Mc1Mn2Cn1Lo6Cn",
  "1MceCnaNd3No6So1Sc1So5Cn1Mn3Mc1Mn8Lo1Cn3Lo1Cn17Lo1Cn10Lo2Cn1Mn1Lo3Mn4Mc1Cn3Mn1Cn4Mn7Cn2Mn1Cn",
  "3Lo2Cn1Lo2Cn2Lo2Mn2CnaNd7Cn1Po7No1So1Lo1Mn2Mc1Po8Lo1Cn3Lo1Cn17Lo1CnaLo1Cn5Lo2Cn1Mn1Lo1Mc1Mn5Mc",
  "1Cn1Mn2Mc1Cn2Mc2Mn7Cn2Mc6Cn2Lo1Cn2Lo2Mn2CnaNd1Cn2Lo1MccCn2Mn2Mc9Lo1Cn3Lo1Cn29Lo2Mn1Lo3Mc4Mn1Cn",
  "3Mc1Cn3Mc1Mn1Lo1So4Cn3Lo1Mc7No3Lo2Mn2CnaNd9No1So6Lo1Cn1Mn2Mc1Cn12Lo3Cn18Lo1Cn9Lo1Cn1Lo2Cn7Lo",
  "3Cn1Mn4Cn3Mc3Mn1Cn1Mn1Cn8Mc6CnaNd2Cn2Mc1PocCn30Lo1Mn2Lo7Mn4Cn1Sc6Lo1Lm8Mn1PoaNd2Po25Cn2Lo1Cn",
  "1Lo1Cn5Lo1Cn18Lo1Cn1Lo1CnaLo1Mn2Lo9Mn1Lo2Cn5Lo1Cn1Lm1Cn7Mn1CnaNd2Cn4Lo20Cn1Lo3SofPo1So1Po3So",
  "2Mn6SoaNdaNo1So1Mn1So1Mn1So1Mn1Ps1Pe1Ps1Pe2Mc8Lo1Cn24Lo4CneMn1Mc5Mn1Po2Mn5LobMn1Cn24Mn1Cn8So",
  "1Mn6So1Cn2So5Po4So2Po25Cn2bLo2Mc4Mn1Mc6Mn1Mc2Mn2Mc2Mn1LoaNd6Po6Lo2Mc2Mn4Lo3Mn1Lo3Mc2Lo7Mc3Lo",
  "4MndLo1Mn2Mc2Mn6Mc1Mn1Lo1McaNd3Mc1Mn2So26Lu1Cn1Lu5Cn1Lu2Cn2bLl1Po1Lm3Ll149Lo1Cn4Lo2Cn7Lo1Cn1Lo",
  "1Cn4Lo2Cn29Lo1Cn4Lo2Cn21Lo1Cn4Lo2Cn7Lo1Cn1Lo1Cn4Lo2CnfLo1Cn39Lo1Cn4Lo2Cn43Lo2Cn3Mn9Po14No3Cn",
  "10LoaSo6Cn56Lu2Cn6Ll2Cn1Pd26cLo1So1Po11Lo1Zs1aLo1Ps1Pe3Cn4bLo3Po3Nl8Lo7Cn12Lo3Mn1Mc9Cn13Lo2Mn",
  "1Mc2Po9Cn12Lo2MncCndLo1Cn3Lo1Cn2MncCn34Lo2Mn1Mc7Mn8Mc1Mn2McbMn3Po1Lm3Po1Sc1Lo1Mn2CnaNd6CnaNo",
  "6Cn6Po1Pd4Po3Mn1Cf1MnaNd6Cn23Lo1Lm35Lo7Cn5Lo2Mn22Lo1Mn1Lo5Cn46LoaCn1fLo1Cn3Mn4Mc2Mn3Mc4Cn2Mc",
  "1Mn6Mc3Mn4Cn1So3Cn2PoaNd1eLo2Cn5LobCn2cLo4Cn1aLo6CnaNd1No3Cn22So17Lo2Mn2Mc1Mn2Cn2Po35Lo1Mc1Mn",
  "1Mc7Mn1Cn1Mn1Mc1Mn2Mc8Mn6McaMn2Cn1MnaNd6CnaNd6Cn7Po1Lm6Po2CneMn1Me10Mn31Cn4Mn1Mc2fLo1Mn1Mc5Mn",
  "1Mc1Mn5Mc1Mn2Mc8Lo1Cn2PoaNd7PoaSo9Mn9So3Po2Mn1Mc1eLo1Mc4Mn2Mc2Mn1Mc3Mn2LoaNd2cLo1Mn1Mc2Mn3Mc",
  "1Mn1Mc3Mn2Mc8Cn4Po24Lo8Mc8Mn2Mc2Mn3Cn5PoaNd3Cn3LoaNd1eLo6Lm2Po9Ll1Lu1Ll5Cn2bLu2Cn3Lu8Po8Cn3Mn",
  "1PodMn1Mc7Mn4Lo1Mn6Lo1Mn2Lo1Mc2Mn1Lo5Cn2cLl3fLmdLl1Lm22Ll25Lm40Mn1Lu1Ll1Lu1Ll1Lu1Ll1Lu1Ll1Lu",
  "1Ll1Lu1Ll1Lu1Ll1Lu1Ll1Lu1Ll1Lu1Ll1Lu1Ll1Lu1Ll1Lu1Ll1Lu1Ll1Lu1Ll1Lu1Ll1Lu1Ll1Lu1Ll1Lu1Ll1Lu1Ll",
  "1Lu1Ll1Lu1Ll1Lu1Ll1Lu1Ll1Lu1Ll1Lu1Ll1Lu1Ll1Lu1Ll1Lu1Ll1Lu1Ll1Lu1Ll1Lu1Ll1Lu1Ll1Lu1Ll1Lu1Ll1Lu",
  "1Ll1Lu1Ll1Lu1Ll1Lu1Ll1Lu1Ll1Lu1Ll1Lu1Ll1Lu1Ll1Lu1Ll1Lu1Ll1Lu1Ll1Lu1Ll1Lu1Ll1Lu1Ll1Lu1Ll1Lu1Ll",
  "1Lu1Ll1Lu1Ll1Lu1Ll1Lu1Ll1Lu1Ll1Lu1Ll1Lu1Ll1Lu1Ll1Lu1Ll1Lu1Ll1Lu1Ll1Lu1Ll1Lu1Ll1Lu1Ll1Lu1Ll1Lu",
  "1Ll1Lu1Ll1Lu1Ll1Lu1Ll1Lu1Ll1Lu1Ll1Lu1Ll1Lu1Ll1Lu9Ll1Lu1Ll1Lu1Ll1Lu1Ll1Lu1Ll1Lu1Ll1Lu1Ll1Lu1Ll",
  "1Lu1Ll1Lu1Ll1Lu1Ll1Lu1Ll1Lu1Ll1Lu1Ll1Lu1Ll1Lu1Ll1Lu1Ll1Lu1Ll1Lu1Ll1Lu1Ll1Lu1Ll1Lu1Ll1Lu1Ll1Lu",
  "1Ll1Lu1Ll1Lu1Ll1Lu1Ll1Lu1Ll1Lu1Ll1Lu1Ll1Lu1Ll1Lu1Ll1Lu1Ll1Lu1Ll1Lu1Ll1Lu1Ll1Lu1Ll1Lu1Ll1Lu1Ll",
  "1Lu1Ll1Lu1Ll1Lu1Ll1Lu1Ll1Lu1Ll1Lu1Ll1Lu1Ll1Lu1Ll1Lu1Ll1Lu1Ll1Lu9Ll8Lu6Ll2Cn6Lu2Cn8Ll8Lu8Ll8Lu",
  "6Ll2Cn6Lu2Cn8Ll1Cn1Lu1Cn1Lu1Cn1Lu1Cn1Lu8Ll8LueLl2Cn8Ll8Lt8Ll8Lt8Ll8Lt5Ll1Cn2Ll4Lu1Lt1Sk1Ll3Sk",
  "3Ll1Cn2Ll4Lu1Lt3Sk4Ll2Cn2Ll4Lu1Cn3Sk8Ll5Lu3Sk2Cn3Ll1Cn2Ll4Lu1Lt2Sk1CnbZs5Cf6Pd2Po1Pi1Pf1Ps2Pi",
  "1Pf1Ps1Pi8Po1Zl1Zp5Cf1Zs9Po1Pi1Pf4Po2Pc3Po1Sm1Ps1PebPo1Sm1Po1PcaPo1Zs5Cf1CnaCf1No1Lm2Cn6No3Sm",
  "1Ps1Pe1LmaNo3Sm1Ps1Pe1CndLm3Cn21ScfCndMn4Me1Mn3MecMnfCn2So1Lu4So1Lu2So1Ll3Lu2Ll3Lu1Ll1So1Lu2So",
  "1Sm5Lu6So1Lu1So1Lu1So1Lu1So4Lu1So1Ll4Lu1Ll4Lo1Ll2So2Ll2Lu5Sm1Lu4Ll1So1Sm2So1Ll1So10No23Nl1Lu",
  "1Ll4Nl1No2So4Cn5Sm5So2Sm4So1Sm2So1Sm2So1Sm7So1Sm1fSo2Sm2So1Sm1So1Sm1fSo10cSm8So1Ps1Pe1Ps1Pe",
  "14So2Sm7So1Ps1Pe51So1Sm1eSo19Sm28So6Sm48So16CnbSo15Cn3cNo4eSo16Nob7So1Sm9So1Sm36So8Sm6fSo1Sm",
  "f8So1Ps1Pe1Ps1Pe1Ps1Pe1Ps1Pe1Ps1Pe1Ps1Pe1Ps1Pe1eNo2cSo5Sm1Ps1Pe1fSm1Ps1Pe1Ps1Pe1Ps1Pe1Ps1Pe1Ps",
  "1Pe10Sm100So83Sm1Ps1Pe1Ps1Pe1Ps1Pe1Ps1Pe1Ps1Pe1Ps1Pe1Ps1Pe1Ps1Pe1Ps1Pe1Ps1Pe1Ps1Pe3fSm1Ps1Pe",
  "1Ps1Pe20Sm1Ps1Pe102Sm30So15Sm2So6Sm27So2Cn20So1Cn69So30Lu30Ll1Lu1Ll3Lu2Ll1Lu1Ll1Lu1Ll1Lu1Ll4Lu",
  "1Ll1Lu2Ll1Lu6Ll2Lm3Lu1Ll1Lu1Ll1Lu1Ll1Lu1Ll1Lu1Ll1Lu1Ll1Lu1Ll1Lu1Ll1Lu1Ll1Lu1Ll1Lu1Ll1Lu1Ll1Lu",
  "1Ll1Lu1Ll1Lu1Ll1Lu1Ll1Lu1Ll1Lu1Ll1Lu1Ll1Lu1Ll1Lu1Ll1Lu1Ll1Lu1Ll1Lu1Ll1Lu1Ll1Lu1Ll1Lu1Ll1Lu1Ll",
  "1Lu1Ll1Lu1Ll1Lu1Ll1Lu1Ll1Lu1Ll1Lu1Ll1Lu1Ll1Lu1Ll1Lu1Ll1Lu1Ll1Lu1Ll1Lu1Ll1Lu1Ll1Lu1Ll1Lu1Ll1Lu",
  "1Ll1Lu1Ll1Lu1Ll1Lu1Ll1Lu1Ll1Lu1Ll1Lu2Ll6So1Lu1Ll1Lu1Ll3Mn1Lu1Ll5Cn4Po1No2Po26Ll1Cn1Ll5Cn1Ll2Cn",
  "38Lo7Cn1Lm1PoeCn1Mn17Lo9Cn7Lo1Cn7Lo1Cn7Lo1Cn7Lo1Cn7Lo1Cn7Lo1Cn7Lo1Cn7Lo1Cn20Mn2Po1Pi1Pf1Pi1Pf",
  "3Po1Pi1Pf1Po1Pi1Pf9Po1Pd2Po1Pd1Po1Pi1Pf2Po1Pi1Pf1Ps1Pe1Ps1Pe1Ps1Pe1Ps1Pe5Po1LmaPo2Pd4Po1Pd1Po",
  "1PsdPo2So3Po1Ps1Pe1Ps1Pe1Ps1Pe1Ps1Pe1Pd22Cn1aSo1Cn59SocCnd6So1aCn10So1Zs3Po1So1Lm1Lo1Nl1Ps1Pe",
  "1Ps1Pe1Ps1Pe1Ps1Pe1Ps1Pe2So1Ps1Pe1Ps1Pe1Ps1Pe1Ps1Pe1Pd1Ps2Pe1So9Nl4Mn2Mc1Pd5Lm2So3Nl1Lm1Lo1Po",
  "2So1Cn56Lo2Cn2Mn2Sk2Lm1Lo1Pd5aLo1Po3Lm1Lo5Cn2bLo1Cn5eLo1Cn2So4NoaSo20Lo26So9Cn1So10Lo1fSo1Cn",
  "aNo1eSo8No1SofNo20SoaNo27SofNo140So19c0Lo40So5215Lo1Lm477Lo3Cn37So9Cn28Lo6Lm2Po10cLo1Lm3Po10Lo",
  "aNd2Lo14Cn1Lu1Ll1Lu1Ll1Lu1Ll1Lu1Ll1Lu1Ll1Lu1Ll1Lu1Ll1Lu1Ll1Lu1Ll1Lu1Ll1Lu1Ll1Lu1Ll1Lu1Ll1Lu1Ll",
  "1Lu1Ll1Lu1Ll1Lu1Ll1Lu1Ll1Lu1Ll1Lu1Ll1Lu1Ll1Lu1Ll1Lu1Ll1Lo1Mn3Me1PoaMn1Po1Lm1Lu1Ll1Lu1Ll1Lu1Ll",
  "1Lu1Ll1Lu1Ll1Lu1Ll1Lu1Ll1Lu1Ll1Lu1Ll1Lu1Ll1Lu1Ll1Lu1Ll1Lu1Ll1Lu1Ll2Lm2Mn46LoaNl2Mn6Po8Cn17Sk",
  "9Lm2Sk1Lu1Ll1Lu1Ll1Lu1Ll1Lu1Ll1Lu1Ll1Lu1Ll1Lu3Ll1Lu1Ll1Lu1Ll1Lu1Ll1Lu1Ll1Lu1Ll1Lu1Ll1Lu1Ll1Lu",
  "1Ll1Lu1Ll1Lu1Ll1Lu1Ll1Lu1Ll1Lu1Ll1Lu1Ll1Lu1Ll1Lu1Ll1Lu1Ll1Lu1Ll1Lu1Ll1Lu1Ll1Lu1Ll1Lu1Ll1Lu1Ll",
  "1Lu1Ll1Lu1Ll1Lu1Ll1Lu1Ll1Lu1Ll1Lu1Ll1Lu1Ll1Lu1Ll1Lm8Ll1Lu1Ll1Lu1Ll2Lu1Ll1Lu1Ll1Lu1Ll1Lu1Ll1Lu",
  "1Ll1Lm2Sk1Lu1Ll1Lu1Ll1Lo1Lu1Ll1Lu3Ll1Lu1Ll1Lu1Ll1Lu1Ll1Lu1Ll1Lu1Ll1Lu1Ll1Lu1Ll1Lu1Ll1Lu1Ll1Lu",
  "1Ll5Lu1Ll5Lu1Ll1Lu1Ll1Lu1Ll1Lu1Ll1Lu1Ll1Lu1Ll1Lu1Ll1Lu1Ll4Lu1Ll1Lu1Ll2Lu1Ll2Cn1Lu1Ll1Cn1Ll1Cn",
  "1Ll1Lu1Ll1Lu1Ll1Lu1Ll1Lu15Cn3Lm1Lu1Ll1Lo2Lm1Ll7Lo1Mn3Lo1Mn4Lo1Mn17Lo2Mc2Mn1Mc4So1Mn3Cn6No2So",
  "1Sc1So6Cn34Lo4Po8Cn2Mc32Lo10Mc2Mn8Cn2PoaNd6Cn12Mn6Lo3Po1Lo1Po2Lo1MnaNd1cLo8Mn2Po17LobMn2McbCn",
  "1Po1dLo3Cn3Mn1Mc2fLo1Mn2Mc4Mn2Mc2Mn3McdPo1Cn1LmaNd4Cn2Po5Lo1Mn1Lm9LoaNd5Lo1Cn29Lo6Mn2Mc2Mn2Mc",
  "2Mn9Cn3Lo1Mn8Lo1Mn1Mc2CnaNd2Cn4Po10Lo1Lm6Lo3So1Lo1Mc1Mn1Mc32Lo1Mn1Lo3Mn2Lo2Mn5Lo2Mn1Lo1Mn1Lo",
  "18Cn2Lo1Lm2PobLo1Mc2Mn2Mc2Po1Lo2Lm1Mc1MnaCn6Lo2Cn6Lo2Cn6Lo9Cn7Lo1Cn7Lo1Cn2bLl1Sk4Lm9Ll1Lm2Sk",
  "4Cn50Ll23Lo2Mc1Mn2Mc1Mn2Mc1Po1Mc1Mn2CnaNd6Cn2ba4LocCn17Lo4Cn31Lo4Cn800Cs1900Co16eLo2Cn6aLo26Cn",
  "7LlcCn5Ll5Cn1Lo1MnaLo1SmdLo1Cn5Lo1Cn1Lo1Cn2Lo1Cn2Lo1Cn6cLo11Sk10Cn16bLo1Pe1Ps10So40Lo2Cn36Lo",
  "7Cn1So20CncLo1Sc3So10Mn7Po1Ps1Pe1Po6Cn10Mn1Po2Pd2Pc1Ps1Pe1Ps1Pe1Ps1Pe1Ps1Pe1Ps1Pe1Ps1Pe1Ps1Pe",
  "1Ps1Pe2Po1Ps1Pe4Po3Pc3Po1Cn4Po1Pd1Ps1Pe1Ps1Pe1Ps1Pe3Po1Sm1Pd3Sm1Cn1Po1Sc2Po4Cn5Lo1Cn87Lo2Cn1Cf",
  "1Cn3Po1Sc3Po1Ps1Pe1Po1Sm1Po1Pd2PoaNd2Po3Sm2Po1aLu1Ps1Po1Pe1Sk1Pc1Sk1aLl1Ps1Sm1Pe1Sm1Ps1Pe1Po",
  "1Ps1Pe2PoaLo1Lm2dLo2Lm1fLo3Cn6Lo2Cn6Lo2Cn6Lo2Cn3Lo3Cn2Sc1Sm1Sk1So2Sc1Cn1So4Sm2SoaCn3Cf2So2Cn",
  "cLo1Cn1aLo1Cn13Lo1Cn2Lo1CnfLo2CneLo22Cn7bLo5Cn3Po4Cn2dNo3Cn9So35Nl4No11So2No3So1CndSo3Cn1So",
  "2fCn2dSo1Mn82Cn1dLo3Cn31LofCn1Mn1bNo4Cn20Lo4No9Cn14Lo1Nl8Lo1Nl5Cn26Lo5Mn5Cn1eLo1Cn1Po24Lo4Cn",
  "8Lo1Po5Nl2aCn28Lu28Ll4eLo2CnaNd6Cn24Lu4Cn24Ll4Cn28Lo8Cn34LobCn1PobLu1CnfLu1Cn7Lu1Cn2Lu1CnbLl",
  "1CnfLl1Cn7Ll1Cn2Ll3Cn34LocCn137Lo9Cn16LoaCn8Lo18Cn6Lm1Cn2aLm1Cn9Lm45Cn6Lo2Cn1Lo1Cn2cLo1Cn2Lo",
  "3Cn1Lo2Cn17Lo1Cn1Po8No17Lo2So7No1fLo8Cn9No30Cn13Lo1Cn2Lo5Cn5No16Lo6No3Cn1Po1aLo5Cn1Po40Cn38Lo",
  "4Cn2No2Lo10No2Cn2eNo1Lo3Mn1Cn2Mn5Cn4Mn4Lo1Cn3Lo1Cn1dLo2Cn3Mn4Cn1Mn9No7Cn9Po7Cn1dLo2No1Po1dLo",
  "3No20Cn8Lo1So1cLo2Mn4Cn5No7Po9Cn36Lo3Cn7Po16Lo2Cn8No13Lo5Cn8No12Lo7Cn4PocCn7No50Cn49Lo37Cn33Lu",
  "dCn33Ll7Cn6No24Lo4Mn8CnaNd6CnaNd4Lo1Lm1Lo16Lu3Cn5Mn1Pd1Lm16Ll8Cn2Smd0Cn1fNo1Cn2aLo1Cn2Mn1Pd2Cn",
  "2Lo10Cn3Lo37Cn4Mn1dLoaNo1Lo8Cn16LobMn4No5Po16Cn12Lo4Mn4Po26Cn15Lo7No14Cn17Lo9Cn1Mc1Mn1Mc35Lo",
  "fMn7Po4Cn14NoaNd1Mn2Lo2Mn1Lo9Cn3Mn1Mc2dLo3Mc4Mn2Mc2Mn2Po1Cf4Po1MnaCn1Cf2Cn19Lo7CnaNd6Cn3Mn24Lo",
  "5Mn1Mc8Mn1CnaNd4Po1Lo2Mc1Lo8Cn23Lo1Mn2Po1Lo9Cn2Mn1Mc30Lo3Mc9Mn2Mc4Lo4Po4Mn1Po1Mc1MnaNd1Lo1Po",
  "1Lo3Po1Cn14NobCn12Lo1Cn19Lo3Mc3Mn2Mc1Mn1Mc2Mn6Po1Mn2Lo1Mn3eCn7Lo1Cn1Lo1Cn4Lo1CnfLo1CnaLo1Po6Cn",
  "2fLo1Mn3Mc8Mn5CnaNd6Cn2Mn2Mc1Cn8Lo2Cn2Lo2Cn16Lo1Cn7Lo1Cn2Lo1Cn5Lo1Cn2Mn1Lo2Mc1Mn4Mc2Cn2Mc2Cn",
  "3Mc2Cn1Lo6Cn1Mc5Cn5Lo2Mc2Cn7Mn3Cn5MnbCnaLo1Cn1Lo2Cn1Lo1Cn26Lo1Cn1Lo3Mc6Mn1Cn1Mc2Cn1Mc1Cn4Mc1Cn",
  "2Mc1Mn1Mc1Mn1Lo1Mn1Lo2Po1Cn2Po8Cn2Mn1dCn35Lo3Mc8Mn2Mc3Mn1Mc1Mn4Lo5PoaNd2Po1Cn1Po1Mn3Lo1eCn30Lo",
  "3Mc6Mn1Mc1Mn4Mc2Mn1Mc2Mn2Lo1Po1Lo8CnaNda6Cn2fLo3Mc4Mn2Cn4Mc2Mn1Mc2Mn17Po4Lo2Mn22Cn30Lo3Mc8Mn",
  "2Mc1Mn1Mc2Mn3Po1LobCnaNd6CndPo13Cn2bLo1Mn1Mc1Mn2Mc6Mn1Mc1Mn1Lo1Po6CnaNd6Cn14Nd1cCn1bLo2Cn1Mn",
  "1Mc1Mn2Mc4Mn1Mc5Mn4CnaNd2No3Po1So7Lob9Cn2cLo3Mc9Mn1Mc2Mn1Po64Cn20Lu20LlaNd9NocCn8Lo2Cn1Lo2Cn",
  "8Lo1Cn2Lo1Cn18Lo6Mc1Cn2Mc2Cn2Mn1Mc1Mn1Lo1Mc1Lo1Mc1Mn3Po9CnaNd46Cn8Lo2Cn27Lo3Mc4Mn2Cn2Mn4Mc1Mn",
  "1Lo1Po1Lo1Mc1bCn1LoaMn28Lo6Mn1Mc1Lo4Mn8Po1Mn8Cn1Lo6Mn2Mc3Mn2eLodMn1Mc2Mn3Po1Lo5PodCn49Lo7CnaPo",
  "b6Cn21Lo1PoeCnaNd6Cn9Lo1Cn25Lo1Mc7Mn1Cn6Mn1Mc1Mn1Lo5PoaCnaNd13No3Cn2Po1eLo2Cn16Mn1Cn1Mc7Mn1Mc",
  "2Mn1Mc2Mn49Cn7Lo1Cn2Lo1Cn26Lo6Mn3Cn1Mn1Cn2Mn1Cn7Mn1Lo1Mn8CnaNd6Cn6Lo1Cn2Lo1Cn20Lo5Mc1Cn2Mn1Cn",
  "2Mc1Mn1Mc1Mn1Lo7CnaNd136Cn13Lo2Mn2Mc2Po7Cn2Mn1Lo1McdLo1Cn22Lo2Mc5Mn3Cn2Mc1Mn1Mc1MndPoaNd1Mn",
  "55Cn1LofCn15No8So4Sc11SodCn1Po39aLo66Cn6fNl1Cn5PobCnc4Loa4cCn61Lo2PodCn430Lo10Cf1Mn6LofMnaCn",
  "f9bLo5Cn247Lo1ab9Cn1eLocMn3Mc3MnaNd6c6Cn239Lo7Cn1fLo1CnaNd4Cn2Po4fLo1CnaNd6Cn1eLo2Cn5Mn1PoaCn",
  "30Lo7Mn5Po4So4Lm1Po1SoaCnaNd1Cn7No1Cn15Lo5Cn13Lo1b0Cn3Lm28Lo2Lm3PoaNdc6Cn20Lu20Ll17No4Po65Cn",
  "4bLo4Cn1Mn1Lo37Mc7Cn4MndLm40Cn2Lm1Po1Lm1MnbCn2MceCn17f8Lo8Cn4d6Lo29CnaLo22e7Cn4Lm1Cn7Lm1Cn2Lm",
  "1Cn123LofCn1Lo1dCn3Lo2Cn1LoeCn4Lo8Cn18cLo904Cn6bLo5CndLo3Cn9Lo7CnaLo2Cn1So2Mn1Po4Cff5cCnf0So",
  "aNd6Cn1b4So4cCn2eMn2Cn17Mn9Cn74So3cCnf6SoaCn27So2Cn3cSo2Mc3Mn3So6Mc8Cf8Mn2So7Mn1eSo4Mn3dSo15Cn",
  "42So3Mn1So7aCn14NocCn14NocCn57So9Cn19No87Cn1aLu1aLl1aLu7Ll1Cn12Ll1aLu1aLl1Lu1Cn2Lu2Cn1Lu2Cn2Lu",
  "2Cn4Lu1Cn8Lu4Ll1Cn1Ll1Cn7Ll1CnbLl1aLu1aLl2Lu1Cn4Lu2Cn8Lu1Cn7Lu1Cn1aLl2Lu1Cn4Lu1Cn5Lu1Cn1Lu3Cn",
  "7Lu1Cn1aLl1aLu1aLl1aLu1aLl1aLu1aLl1aLu1aLl1aLu1aLl1aLu1cLl2Cn19Lu1Sm19Ll1Sm6Ll19Lu1Sm19Ll1Sm",
  "6Ll19Lu1Sm19Ll1Sm6Ll19Lu1Sm19Ll1Sm6Ll19Lu1Sm19Ll1Sm6Ll1Lu1Ll2Cn32Nd200So37Mn4So32Mn8So1MneSo",
  "1Mn2So5PofCn5Mn1CnfMn450CnaLl1Lo14Ll6Cn6Lld5Cn7Mn1Cn11Mn2Cn7Mn1Cn2Mn1Cn5Mn5Cn3eLm21Cn1Mn70Cn",
  "2dLo3Cn7Mn7Lm2CnaNd4Cn1Lo1So140Cn1eLo1Mn11Cn2cLo4MnaNd5Cn1Sc1d0Cn1bLo1Lm4MnaNdd6Cn1eLo2Mn1Lo",
  "aNd4Cn1Po1e0Cn7Lo1Cn4Lo1Cn2Lo1CnfLo1Cnc5Lo2Cn9No7Mn29Cn22Lu22Ll7Mn1Lm4CnaNd4Cn2Po311Cn3bNo1So",
  "3No1Sc4No4cCn2dNo1SofNoc2Cn4Lo1Cn1bLo1Cn2Lo1Cn1Lo2Cn1Lo1CnaLo1Cn4Lo1Cn1Lo1Cn1Lo6Cn1Lo4Cn1Lo1Cn",
  "1Lo1Cn1Lo1Cn3Lo1Cn2Lo1Cn1Lo2Cn1Lo1Cn1Lo1Cn1Lo1Cn1Lo1Cn1Lo1Cn2Lo1Cn1Lo2Cn4Lo1Cn7Lo1Cn4Lo1Cn4Lo",
  "1Cn1Lo1CnaLo1Cn11Lo5Cn3Lo1Cn5Lo1Cn11Lo34Cn2Sm10eCn2cSo4Cn64SocCnfSo2CnfSo1CnfSo1Cn25SoaCndNo",
  "a1So38Cn1dSodCn2cSo4Cn9So7Cn2SoeCn6So9aCnfbSo5Sk2d8So4Cn11So3CndSo3Cn77So4Cn5fSo6CncSo4Cn1So",
  "fCncSo4Cn38So8CnaSo6Cn28So8Cn1eSo2CncSo4Cn2So3eCn154SocCneSo2CndSo3CnaSo5Cn38So7CnfSo2CnbSo6Cn",
  "9So7Cn93So1Cn5cSoaNd406Cna6e0Lo20Cn103aLo6CndeLo2Cn1682LoeCn1d31LofCn26eLo9a2Cn21eLo5e2Cn",
  "134bLo5Cn1060Loadc51Cn1Cf1eCn60Cf80Cnf0Mnfe10CnfffeCo2CnfffeCo2Cn"]

/-- The runs of one category, in order. -/
def runs : List Run :=
  Run.ofTable 2 table

/-- The characters of the categories with the given codes. -/
def ofCodes (codes : List String) : CodeSet :=
  (Run.select codes.contains runs).inter .characters

/-- The codes of a group of categories. -/
def group : Char → List String
  | 'L' => ["Lu", "Ll", "Lt", "Lm", "Lo"]
  | 'M' => ["Mn", "Mc", "Me"]
  | 'N' => ["Nd", "Nl", "No"]
  | 'P' => ["Pc", "Pd", "Ps", "Pe", "Pi", "Pf", "Po"]
  | 'S' => ["Sm", "Sc", "Sk", "So"]
  | 'Z' => ["Zs", "Zl", "Zp"]
  | 'C' => ["Cc", "Cf", "Co", "Cn", "Cs"]
  | _ => []

/-- The characters of a group of categories. -/
def ofGroup (letter : Char) : CodeSet :=
  ofCodes (group letter)

end EndpointMonitor.Category
