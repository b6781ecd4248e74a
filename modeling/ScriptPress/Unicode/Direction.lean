import ScriptPress.Unicode.Range

/-!
# The direction of writing

The classes of characters of the bidirectional algorithm, as far as they may stand in a host name,
and the rule of RFC 5893 for the labels of a host name with characters written from right to left.
-/
namespace ScriptPress.Unicode

inductive Direction where
  | left
  | right
  | arabic
  | arabicNumber
  | number
  | numberSign
  | numberSeparator
  | numberTerminator
  | neutral
  | boundary
  | mark
  deriving DecidableEq, Repr

def rightToLeft : List Range :=
  [(1470, 1470), (1472, 1472), (1475, 1475), (1478, 1478), (1488, 1524), (1984, 2026), (2036, 2037),
    (2042, 2042), (2046, 2069), (2074, 2074), (2084, 2084), (2088, 2088), (2096, 2136),
    (2142, 2142), (67584, 67867), (67872, 68096), (68112, 68149), (68160, 68324), (68331, 68405),
    (68416, 68863), (69248, 69289), (69293, 69415), (69488, 69505), (69510, 69622),
    (124928, 125135), (125218, 125251), (125259, 125279)]

def arabicLetters : List Range :=
  [(1544, 1544), (1547, 1547), (1549, 1549), (1563, 1610), (1645, 1647), (1649, 1749), (1765, 1766),
    (1774, 1775), (1786, 1808), (1810, 1839), (1869, 1957), (1969, 1969), (2144, 2190),
    (2208, 2249), (64434, 64450), (65139, 65139), (68864, 68899), (69424, 69445), (69457, 69465),
    (126065, 126269)]

def arabicNumbers : List Range :=
  [(1632, 1641), (1643, 1644), (68912, 69246)]

def europeanNumbers : List Range :=
  [(48, 57), (1776, 1785), (66273, 66299)]

def numberSigns : List Range :=
  [(43, 43), (45, 45), (8722, 8722)]

def numberSeparators : List Range :=
  [(44, 44), (46, 47), (58, 58), (1548, 1548), (8260, 8260)]

def numberTerminators : List Range :=
  [(35, 37), (162, 165), (176, 177), (1423, 1423), (1545, 1546), (1642, 1642), (2546, 2547),
    (2555, 2555), (2801, 2801), (3065, 3065), (3647, 3647), (6107, 6107), (8240, 8242),
    (8352, 8384), (8494, 8494), (8723, 8723), (43064, 43065), (73693, 73696), (123647, 123647)]

def neutrals : List Range :=
  [(9, 13), (28, 34), (38, 42), (59, 64), (91, 96), (123, 126), (161, 161), (166, 174), (182, 215),
    (247, 247), (697, 698), (706, 719), (722, 749), (751, 767), (885, 885), (1014, 1014),
    (1418, 1422), (1542, 1543), (1550, 1551), (1758, 1758), (1769, 1769), (2038, 2041),
    (3059, 3064), (3066, 3066), (3192, 3198), (3898, 3901), (5008, 5017), (5120, 5120),
    (5787, 5788), (6128, 6154), (6464, 6469), (6622, 6655), (8208, 8231), (8245, 8259),
    (8261, 8286), (8452, 8489), (8506, 8525), (8586, 8721), (8724, 9013), (9083, 9108),
    (9110, 9899), (9901, 10239), (10496, 11263), (11493, 11498), (11513, 11519), (11776, 12292),
    (12296, 12320), (12336, 12336), (12343, 12343), (12349, 12351), (12448, 12448), (12539, 12539),
    (12736, 12771), (19904, 19967), (42128, 42182), (42509, 42511), (42611, 42611), (42622, 42623),
    (42752, 42785), (42888, 42888), (43048, 43051), (43124, 43127), (43882, 43883), (64830, 65023),
    (65093, 65094), (65793, 65793), (65856, 65932), (65936, 65952), (67871, 67871), (68409, 68415),
    (69714, 69733), (71264, 71276), (73685, 73692), (73697, 73713), (94178, 94178),
    (119273, 119361), (119365, 119365), (119552, 119638), (126704, 127279), (127341, 127343),
    (127405, 127405), (127584, 129994)]

def boundaries : List Range :=
  [(0, 8), (14, 27), (127, 127), (8204, 8205)]

def nonspacingMarks : List Range :=
  [(768, 879), (1155, 1161), (1425, 1469), (1471, 1471), (1473, 1474), (1476, 1477), (1479, 1479),
    (1552, 1562), (1611, 1631), (1648, 1648), (1750, 1756), (1759, 1764), (1767, 1768),
    (1770, 1773), (1809, 1809), (1840, 1866), (1958, 1968), (2027, 2035), (2045, 2045),
    (2070, 2073), (2075, 2083), (2085, 2087), (2089, 2093), (2137, 2139), (2200, 2207),
    (2250, 2306), (2362, 2362), (2364, 2364), (2369, 2376), (2381, 2381), (2385, 2391),
    (2402, 2403), (2433, 2433), (2492, 2492), (2497, 2500), (2509, 2509), (2530, 2531),
    (2558, 2562), (2620, 2620), (2625, 2641), (2672, 2673), (2677, 2677), (2689, 2690),
    (2748, 2748), (2753, 2760), (2765, 2765), (2786, 2787), (2810, 2817), (2876, 2876),
    (2879, 2879), (2881, 2884), (2893, 2902), (2914, 2915), (2946, 2946), (3008, 3008),
    (3021, 3021), (3072, 3072), (3076, 3076), (3132, 3132), (3134, 3136), (3142, 3158),
    (3170, 3171), (3201, 3201), (3260, 3260), (3276, 3277), (3298, 3299), (3328, 3329),
    (3387, 3388), (3393, 3396), (3405, 3405), (3426, 3427), (3457, 3457), (3530, 3530),
    (3538, 3542), (3633, 3633), (3636, 3642), (3655, 3662), (3761, 3761), (3764, 3772),
    (3784, 3789), (3864, 3865), (3893, 3893), (3895, 3895), (3897, 3897), (3953, 3966),
    (3968, 3972), (3974, 3975), (3981, 4028), (4038, 4038), (4141, 4144), (4146, 4151),
    (4153, 4154), (4157, 4158), (4184, 4185), (4190, 4192), (4209, 4212), (4226, 4226),
    (4229, 4230), (4237, 4237), (4253, 4253), (4957, 4959), (5906, 5908), (5938, 5939),
    (5970, 5971), (6002, 6003), (6071, 6077), (6086, 6086), (6089, 6099), (6109, 6109),
    (6277, 6278), (6313, 6313), (6432, 6434), (6439, 6440), (6450, 6450), (6457, 6459),
    (6679, 6680), (6683, 6683), (6742, 6742), (6744, 6752), (6754, 6754), (6757, 6764),
    (6771, 6783), (6832, 6915), (6964, 6964), (6966, 6970), (6972, 6972), (6978, 6978),
    (7019, 7027), (7040, 7041), (7074, 7077), (7080, 7081), (7083, 7085), (7142, 7142),
    (7144, 7145), (7149, 7149), (7151, 7153), (7212, 7219), (7222, 7223), (7376, 7378),
    (7380, 7392), (7394, 7400), (7405, 7405), (7412, 7412), (7416, 7417), (7616, 7679),
    (8400, 8432), (11503, 11505), (11647, 11647), (11744, 11775), (12330, 12333), (12441, 12442),
    (42607, 42610), (42612, 42621), (42654, 42655), (42736, 42737), (43010, 43010), (43014, 43014),
    (43019, 43019), (43045, 43046), (43052, 43052), (43204, 43205), (43232, 43249), (43263, 43263),
    (43302, 43309), (43335, 43345), (43392, 43394), (43443, 43443), (43446, 43449), (43452, 43453),
    (43493, 43493), (43561, 43566), (43569, 43570), (43573, 43574), (43587, 43587), (43596, 43596),
    (43644, 43644), (43696, 43696), (43698, 43700), (43703, 43704), (43710, 43711), (43713, 43713),
    (43756, 43757), (43766, 43766), (44005, 44005), (44008, 44008), (44013, 44013), (64286, 64286),
    (65056, 65071), (66045, 66045), (66272, 66272), (66422, 66426), (68097, 68111), (68152, 68159),
    (68325, 68326), (68900, 68903), (69291, 69292), (69446, 69456), (69506, 69509), (69633, 69633),
    (69688, 69702), (69744, 69744), (69747, 69748), (69759, 69761), (69811, 69814), (69817, 69818),
    (69826, 69826), (69888, 69890), (69927, 69931), (69933, 69940), (70003, 70003), (70016, 70017),
    (70070, 70078), (70089, 70092), (70095, 70095), (70191, 70193), (70196, 70196), (70198, 70199),
    (70206, 70206), (70367, 70367), (70371, 70378), (70400, 70401), (70459, 70460), (70464, 70464),
    (70502, 70516), (70712, 70719), (70722, 70724), (70726, 70726), (70750, 70750), (70835, 70840),
    (70842, 70842), (70847, 70848), (70850, 70851), (71090, 71093), (71100, 71101), (71103, 71104),
    (71132, 71133), (71219, 71226), (71229, 71229), (71231, 71232), (71339, 71339), (71341, 71341),
    (71344, 71349), (71351, 71351), (71453, 71455), (71458, 71461), (71463, 71467), (71727, 71735),
    (71737, 71738), (71995, 71996), (71998, 71998), (72003, 72003), (72148, 72155), (72160, 72160),
    (72193, 72198), (72201, 72202), (72243, 72248), (72251, 72254), (72263, 72263), (72273, 72278),
    (72281, 72283), (72330, 72342), (72344, 72345), (72752, 72765), (72850, 72871), (72874, 72880),
    (72882, 72883), (72885, 72886), (73009, 73029), (73031, 73031), (73104, 73105), (73109, 73109),
    (73111, 73111), (73459, 73460), (92912, 92916), (92976, 92982), (94031, 94031), (94095, 94098),
    (94180, 94180), (113821, 113822), (118528, 118598), (119143, 119145), (119163, 119170),
    (119173, 119179), (119210, 119213), (119362, 119364), (121344, 121398), (121403, 121452),
    (121461, 121461), (121476, 121476), (121499, 121519), (122880, 122922), (123184, 123190),
    (123566, 123566), (123628, 123631), (125136, 125142), (125252, 125258)]

/-- The directional class of a character; what is in no table is written from left to right. -/
def direction (c : Char) : Direction :=
  if inRanges rightToLeft c then .right
  else if inRanges arabicLetters c then .arabic
  else if inRanges arabicNumbers c then .arabicNumber
  else if inRanges europeanNumbers c then .number
  else if inRanges numberSigns c then .numberSign
  else if inRanges numberSeparators c then .numberSeparator
  else if inRanges numberTerminators c then .numberTerminator
  else if inRanges neutrals c then .neutral
  else if inRanges boundaries c then .boundary
  else if inRanges nonspacingMarks c then .mark
  else .left

/-- Whether a label makes its host name one to which the rule applies. -/
def hasRightToLeft (label : List Char) : Bool :=
  label.any fun c => [Direction.right, .arabic, .arabicNumber].contains (direction c)

/-- Whether a label keeps the rule: it has one direction, and starts and ends accordingly. -/
def keepsDirection (label : List Char) : Bool :=
  let classes := label.map direction
  let last := (classes.reverse.dropWhile (· == .mark)).head?
  let all (allowed : List Direction) : Bool := classes.all allowed.contains
  match classes.head? with
  | none => true
  | some .left =>
    all [.left, .number, .numberSign, .numberSeparator, .numberTerminator, .neutral, .boundary,
      .mark] &&
      last.any [Direction.left, .number].contains
  | some first =>
    (first == .right || first == .arabic) &&
      all [.right, .arabic, .arabicNumber, .number, .numberSign, .numberSeparator,
        .numberTerminator, .neutral, .boundary, .mark] &&
      last.any [Direction.right, .arabic, .number, .arabicNumber].contains &&
      !(classes.contains .number && classes.contains .arabicNumber)

end ScriptPress.Unicode
