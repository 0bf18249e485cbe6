-- Capital letters: which letters have another case at all, and the first letter of the capital
-- form of each.

import SourceAudit.Text.LetterCase

namespace SourceAudit.Text

/-- Letters that have another case, small or capital. -/
def caseTable : CodeSet where
  turns := #[
    65, 91, 97, 123, 181, 182, 192, 215, 216, 247, 248, 312, 313, 397, 398, 411, 412, 426, 428,
    442, 444, 446, 447, 448, 452, 545, 546, 564, 570, 597, 598, 600, 601, 602, 603, 605, 608,
    610, 611, 612, 613, 615, 616, 621, 623, 624, 625, 627, 629, 630, 637, 638, 640, 641, 642,
    644, 647, 653, 658, 659, 669, 671, 837, 838, 880, 884, 886, 888, 891, 894, 895, 896, 902,
    903, 904, 907, 908, 909, 910, 930, 931, 978, 981, 1014, 1015, 1020, 1021, 1154, 1162, 1328,
    1329, 1367, 1377, 1416, 4256, 4294, 4295, 4296, 4301, 4302, 4304, 4347, 4349, 4352, 5024,
    5110, 5112, 5118, 7296, 7305, 7312, 7355, 7357, 7360, 7545, 7546, 7549, 7550, 7566, 7567,
    7680, 7836, 7838, 7839, 7840, 7958, 7960, 7966, 7968, 8006, 8008, 8014, 8016, 8024, 8025,
    8026, 8027, 8028, 8029, 8030, 8031, 8062, 8064, 8117, 8118, 8125, 8126, 8127, 8130, 8133,
    8134, 8141, 8144, 8148, 8150, 8156, 8160, 8173, 8178, 8181, 8182, 8189, 8486, 8487, 8490,
    8492, 8498, 8499, 8526, 8527, 8544, 8576, 8579, 8581, 9398, 9450, 11264, 11377, 11378, 11380,
    11381, 11383, 11390, 11492, 11499, 11503, 11506, 11508, 11520, 11558, 11559, 11560, 11565,
    11566, 42560, 42606, 42624, 42652, 42786, 42800, 42802, 42864, 42873, 42888, 42891, 42894,
    42896, 42901, 42902, 42927, 42928, 42955, 42960, 42962, 42966, 42970, 42997, 42999, 43859,
    43860, 43888, 43968, 64256, 64263, 64275, 64280, 65313, 65339, 65345, 65371, 66560, 66640,
    66736, 66772, 66776, 66812, 66928, 66939, 66940, 66955, 66956, 66963, 66964, 66966, 66967,
    66978, 66979, 66994, 66995, 67002, 67003, 67005, 68736, 68787, 68800, 68851, 71840, 71904,
    93760, 93824, 125184, 125252]

/-- The point stands for a letter that has another case. -/
def hasCase (point : Nat) : Bool :=
  caseTable.contains point

/-- Letters whose capital form does not begin with the letter that they are the small form of. -/
def unpairedCapitals : Array LowerRun := #[
    ⟨181, 181, 1, 924⟩, ⟨223, 223, 1, 83⟩, ⟨305, 305, 1, 73⟩, ⟨329, 329, 1, 700⟩,
    ⟨383, 383, 1, 83⟩, ⟨453, 453, 1, 452⟩, ⟨456, 456, 1, 455⟩, ⟨459, 459, 1, 458⟩,
    ⟨496, 496, 1, 74⟩, ⟨498, 498, 1, 497⟩, ⟨837, 837, 1, 921⟩, ⟨912, 912, 1, 921⟩,
    ⟨944, 944, 1, 933⟩, ⟨962, 962, 1, 931⟩, ⟨976, 976, 1, 914⟩, ⟨977, 977, 1, 920⟩,
    ⟨981, 981, 1, 934⟩, ⟨982, 982, 1, 928⟩, ⟨1008, 1008, 1, 922⟩, ⟨1009, 1009, 1, 929⟩,
    ⟨1013, 1013, 1, 917⟩, ⟨1415, 1415, 1, 1333⟩, ⟨7296, 7296, 1, 1042⟩, ⟨7297, 7297, 1, 1044⟩,
    ⟨7298, 7298, 1, 1054⟩, ⟨7299, 7300, 1, 1057⟩, ⟨7301, 7301, 1, 1058⟩, ⟨7302, 7302, 1, 1066⟩,
    ⟨7303, 7303, 1, 1122⟩, ⟨7304, 7304, 1, 42570⟩, ⟨7830, 7830, 1, 72⟩, ⟨7831, 7831, 1, 84⟩,
    ⟨7832, 7832, 1, 87⟩, ⟨7833, 7833, 1, 89⟩, ⟨7834, 7834, 1, 65⟩, ⟨7835, 7835, 1, 7776⟩,
    ⟨8016, 8016, 1, 933⟩, ⟨8018, 8018, 1, 933⟩, ⟨8020, 8020, 1, 933⟩, ⟨8022, 8022, 1, 933⟩,
    ⟨8064, 8071, 1, 7944⟩, ⟨8072, 8079, 1, 7944⟩, ⟨8080, 8087, 1, 7976⟩, ⟨8088, 8095, 1, 7976⟩,
    ⟨8096, 8103, 1, 8040⟩, ⟨8104, 8111, 1, 8040⟩, ⟨8114, 8114, 1, 8122⟩, ⟨8115, 8115, 1, 913⟩,
    ⟨8116, 8116, 1, 902⟩, ⟨8118, 8118, 1, 913⟩, ⟨8119, 8119, 1, 913⟩, ⟨8124, 8124, 1, 913⟩,
    ⟨8126, 8126, 1, 921⟩, ⟨8130, 8130, 1, 8138⟩, ⟨8131, 8131, 1, 919⟩, ⟨8132, 8132, 1, 905⟩,
    ⟨8134, 8134, 1, 919⟩, ⟨8135, 8135, 1, 919⟩, ⟨8140, 8140, 1, 919⟩, ⟨8146, 8146, 1, 921⟩,
    ⟨8147, 8147, 1, 921⟩, ⟨8150, 8150, 1, 921⟩, ⟨8151, 8151, 1, 921⟩, ⟨8162, 8162, 1, 933⟩,
    ⟨8163, 8163, 1, 933⟩, ⟨8164, 8164, 1, 929⟩, ⟨8166, 8166, 1, 933⟩, ⟨8167, 8167, 1, 933⟩,
    ⟨8178, 8178, 1, 8186⟩, ⟨8179, 8179, 1, 937⟩, ⟨8180, 8180, 1, 911⟩, ⟨8182, 8182, 1, 937⟩,
    ⟨8183, 8183, 1, 937⟩, ⟨8188, 8188, 1, 937⟩, ⟨64256, 64256, 1, 70⟩, ⟨64257, 64257, 1, 70⟩,
    ⟨64258, 64258, 1, 70⟩, ⟨64259, 64259, 1, 70⟩, ⟨64260, 64260, 1, 70⟩, ⟨64261, 64261, 1, 83⟩,
    ⟨64262, 64262, 1, 83⟩, ⟨64275, 64275, 1, 1348⟩, ⟨64276, 64276, 1, 1348⟩,
    ⟨64277, 64277, 1, 1348⟩, ⟨64278, 64278, 1, 1358⟩, ⟨64279, 64279, 1, 1348⟩]

/-- The first letter of the capital form of a letter. Every other point stands for itself. -/
def firstCapital (point : Nat) : Nat :=
  match unpairedCapitals.findSome? (·.lower? point) with
  | some capital => capital
  | none => ((lowerSources point).find? (· != point)).getD point

end SourceAudit.Text
