import SymbolReference.Text.Printable

namespace SymbolReference.Text

/-- The characters of names that the normal form replaces. -/
def replacedRanges : Array (Nat × Nat) := #[
  (170, 170), (181, 181), (186, 186), (306, 307), (319, 320), (329, 329), (383, 383), (452, 460),
  (497, 499), (688, 696), (736, 740), (832, 833), (835, 836), (884, 884), (903, 903), (976, 982),
  (1008, 1010), (1012, 1013), (1017, 1017), (1415, 1415), (1653, 1656), (2392, 2399),
  (2524, 2525), (2527, 2527), (2611, 2611), (2614, 2614), (2649, 2651), (2654, 2654),
  (2908, 2909), (3635, 3635), (3763, 3763), (3804, 3805), (3907, 3907), (3917, 3917),
  (3922, 3922), (3927, 3927), (3932, 3932), (3945, 3945), (3955, 3955), (3957, 3961),
  (3969, 3969), (3987, 3987), (3997, 3997), (4002, 4002), (4007, 4007), (4012, 4012),
  (4025, 4025), (4348, 4348), (7468, 7470), (7472, 7482), (7484, 7501), (7503, 7530),
  (7544, 7544), (7579, 7615), (7834, 7835), (8049, 8049), (8051, 8051), (8053, 8053),
  (8055, 8055), (8057, 8057), (8059, 8059), (8061, 8061), (8123, 8123), (8126, 8126),
  (8137, 8137), (8139, 8139), (8147, 8147), (8155, 8155), (8163, 8163), (8171, 8171),
  (8185, 8185), (8187, 8187), (8305, 8305), (8319, 8319), (8336, 8348), (8450, 8450),
  (8455, 8455), (8458, 8467), (8469, 8469), (8473, 8477), (8484, 8484), (8486, 8486),
  (8488, 8488), (8490, 8493), (8495, 8497), (8499, 8505), (8508, 8511), (8517, 8521),
  (8544, 8575), (11388, 11389), (11631, 11631), (12344, 12346), (12447, 12447), (12543, 12543),
  (12593, 12686), (42652, 42653), (42864, 42864), (42994, 42996), (43000, 43001), (43868, 43871),
  (43881, 43881), (63744, 64013), (64016, 64016), (64018, 64018), (64021, 64030), (64032, 64032),
  (64034, 64034), (64037, 64038), (64042, 64109), (64112, 64217), (64256, 64262), (64275, 64279),
  (64285, 64285), (64287, 64296), (64298, 64310), (64312, 64316), (64318, 64318), (64320, 64321),
  (64323, 64324), (64326, 64433), (64467, 64605), (64612, 64829), (64848, 64911), (64914, 64967),
  (65008, 65017), (65075, 65076), (65101, 65103), (65137, 65137), (65143, 65143), (65145, 65145),
  (65147, 65147), (65149, 65149), (65151, 65276), (65296, 65305), (65313, 65338), (65343, 65343),
  (65345, 65370), (65382, 65470), (65474, 65479), (65482, 65487), (65490, 65495), (65498, 65500),
  (67457, 67461), (67463, 67504), (67506, 67514), (119808, 119892), (119894, 119964),
  (119966, 119967), (119970, 119970), (119973, 119974), (119977, 119980), (119982, 119993),
  (119995, 119995), (119997, 120003), (120005, 120069), (120071, 120074), (120077, 120084),
  (120086, 120092), (120094, 120121), (120123, 120126), (120128, 120132), (120134, 120134),
  (120138, 120144), (120146, 120485), (120488, 120512), (120514, 120538), (120540, 120570),
  (120572, 120596), (120598, 120628), (120630, 120654), (120656, 120686), (120688, 120712),
  (120714, 120744), (120746, 120770), (120772, 120779), (120782, 120831), (126464, 126467),
  (126469, 126495), (126497, 126498), (126500, 126500), (126503, 126503), (126505, 126514),
  (126516, 126519), (126521, 126521), (126523, 126523), (126530, 126530), (126535, 126535),
  (126537, 126537), (126539, 126539), (126541, 126543), (126545, 126546), (126548, 126548),
  (126551, 126551), (126553, 126553), (126555, 126555), (126557, 126557), (126559, 126559),
  (126561, 126562), (126564, 126564), (126567, 126570), (126572, 126578), (126580, 126583),
  (126585, 126588), (126590, 126590), (126592, 126601), (126603, 126619), (126625, 126627),
  (126629, 126633), (126635, 126651), (130032, 130041), (194560, 195101)]

def isNormalName (name : String) : Bool :=
  !name.toList.any fun c => inRanges replacedRanges c.toNat

end SymbolReference.Text
