import AgentConvert.Unicode.CodeSet

/-!
# Places to break text

How a code point takes part in finding where grapheme clusters, words and sentences end.
-/

namespace AgentConvert.Unicode

/-- The units into which text is broken. -/
inductive TextUnit where
  | grapheme
  | word
  | sentence
  deriving DecidableEq

namespace TextUnit

/-- The names of parts that code points play, as loose matching leaves them, each with the word for
it in the table. -/
def names : TextUnit → List (String × String)
  | grapheme => [
    ("cn", "CN"), ("control", "CN"), ("cr", "CR"), ("ex", "EX"), ("extend", "EX"), ("l", "L"),
    ("lf", "LF"), ("lv", "LV"), ("lvt", "LVT"), ("pp", "PP"), ("prepend", "PP"),
    ("regionalindicator", "RI"), ("ri", "RI"), ("sm", "SM"), ("spacingmark", "SM"), ("t", "T"),
    ("v", "V"), ("zwj", "ZWJ")]
  | word => [
    ("aletter", "LE"), ("cr", "CR"), ("doublequote", "DQ"), ("dq", "DQ"), ("ex", "EX"),
    ("extend", "Extend"), ("extendnumlet", "EX"), ("fo", "FO"), ("format", "FO"),
    ("hebrewletter", "HL"), ("hl", "HL"), ("ka", "KA"), ("katakana", "KA"), ("le", "LE"),
    ("lf", "LF"), ("mb", "MB"), ("midletter", "ML"), ("midnum", "MN"), ("midnumlet", "MB"),
    ("ml", "ML"), ("mn", "MN"), ("newline", "NL"), ("nl", "NL"), ("nu", "NU"), ("numeric", "NU"),
    ("regionalindicator", "RI"), ("ri", "RI"), ("singlequote", "SQ"), ("sq", "SQ"),
    ("wsegspace", "WSegSpace"), ("zwj", "ZWJ")]
  | sentence => [
    ("at", "AT"), ("aterm", "AT"), ("cl", "CL"), ("close", "CL"), ("cr", "CR"), ("ex", "EX"),
    ("extend", "EX"), ("fo", "FO"), ("format", "FO"), ("le", "LE"), ("lf", "LF"), ("lo", "LO"),
    ("lower", "LO"), ("nu", "NU"), ("numeric", "NU"), ("oletter", "LE"), ("sc", "SC"),
    ("scontinue", "SC"), ("se", "SE"), ("sep", "SE"), ("sp", "SP"), ("st", "ST"), ("sterm", "ST"),
    ("up", "UP"), ("upper", "UP")]

/-- The part that every code point plays, as runs. -/
def table : TextUnit → String
  | grapheme =>
    "CN10 LF CN2 CR CN18 -95 CN33 -13 CN -594 EX112 -275 EX7 -263 EX45 - EX - EX2 - EX2 - EX -56
    PP6 -10 EX11 - CN -46 EX21 -16 EX -101 EX7 PP - EX6 -2 EX2 - EX4 -33 PP - EX -30 EX27 -91 EX11
    -58 EX9 -9 EX -24 EX4 - EX9 - EX3 - EX5 -43 EX3 -52 PP2 -5 EX9 -42 EX24 PP EX32 SM -54 EX SM
    EX - SM3 EX8 SM4 EX SM2 - EX7 -10 EX2 -29 EX SM2 -56 EX - EX SM2 EX4 -2 SM2 -2 SM2 EX -9 EX
    -10 EX2 -26 EX -2 EX2 SM -56 EX - SM3 EX2 -4 EX2 -2 EX3 -3 EX -30 EX2 -3 EX -11 EX2 SM -56 EX
    - SM3 EX5 - EX2 SM - SM2 EX -20 EX2 -22 EX6 - EX SM2 -56 EX - EX2 SM EX4 -2 SM2 -2 SM2 EX -7
    EX3 -10 EX2 -30 EX -59 EX SM EX SM2 -3 SM3 - SM3 EX -9 EX -40 EX SM3 EX -55 EX - EX3 SM4 - EX3
    - EX4 -7 EX2 -11 EX2 -29 EX SM2 -56 EX - SM EX2 SM EX SM2 - EX3 - EX4 -7 EX2 -11 EX2 -15 SM
    -12 EX2 SM2 -55 EX2 - EX SM2 EX4 - SM3 - SM3 EX PP -8 EX -10 EX2 -29 EX SM2 -70 EX -4 EX SM2
    EX3 - EX - SM7 EX -18 SM2 -61 EX - SM EX7 -12 EX8 -98 EX - SM EX9 -11 EX7 -73 EX2 -27 EX - EX
    - EX -4 SM2 -49 EX14 SM EX5 - EX2 -5 EX11 - EX36 -9 EX -102 EX4 SM EX6 - EX2 SM2 EX2 -23 SM2
    EX2 -4 EX3 -16 EX4 -13 EX - SM EX2 -6 EX -15 EX -98 L96 V72 T88 -349 EX3 -946 EX4 -28 EX3 -29
    EX2 -30 EX2 -64 EX2 SM EX7 SM8 EX SM2 EX11 -9 EX -45 EX3 CN EX -117 EX2 -34 EX -118 EX3 SM4
    EX2 SM3 -4 SM2 EX SM6 EX3 -219 EX2 SM2 EX -57 SM EX SM EX7 - EX - EX -2 EX8 SM6 EX10 -2 EX -48
    EX31 -49 EX4 SM -47 EX10 SM4 EX3 -38 EX9 -12 EX2 SM -30 SM EX4 SM2 EX6 -56 EX SM EX2 SM3 EX SM
    EX5 -48 SM8 EX8 SM2 EX2 -152 EX3 - EX13 SM EX7 -4 EX -6 EX -2 SM EX2 -198 EX64 -523 CN EX ZWJ
    CN2 -24 CN7 -49 CN16 -96 EX33 -3070 EX3 -141 EX -96 EX32 -554 EX6 -105 EX2 -30164 EX4 - EX10
    -32 EX2 -80 EX2 -272 EX -3 EX -4 EX -23 SM2 EX2 SM -4 EX -83 SM2 -50 SM16 EX2 -26 EX18 -13 EX
    -38 EX8 -25 EX11 SM EX -12 L29 -3 EX3 SM -47 EX SM2 EX4 SM2 EX2 SM2 EX -36 EX -67 EX6 SM2 EX2
    SM2 EX2 -12 EX -8 EX SM -46 EX -51 EX - EX3 -2 EX2 -5 EX2 - EX -41 SM EX2 SM2 -5 SM EX -236
    SM2 EX SM2 EX SM2 - SM EX -18 LV LVT27 LV LVT27 LV LVT27 LV LVT27 LV LVT27 LV LVT27 LV LVT27
    LV LVT27 LV LVT27 LV LVT27 LV LVT27 LV LVT27 LV LVT27 LV LVT27 LV LVT27 LV LVT27 LV LVT27 LV
    LVT27 LV LVT27 LV LVT27 LV LVT27 LV LVT27 LV LVT27 LV LVT27 LV LVT27 LV LVT27 LV LVT27 LV
    LVT27 LV LVT27 LV LVT27 LV LVT27 LV LVT27 LV LVT27 LV LVT27 LV LVT27 LV LVT27 LV LVT27 LV
    LVT27 LV LVT27 LV LVT27 LV LVT27 LV LVT27 LV LVT27 LV LVT27 LV LVT27 LV LVT27 LV LVT27 LV
    LVT27 LV LVT27 LV LVT27 LV LVT27 LV LVT27 LV LVT27 LV LVT27 LV LVT27 LV LVT27 LV LVT27 LV
    LVT27 LV LVT27 LV LVT27 LV LVT27 LV LVT27 LV LVT27 LV LVT27 LV LVT27 LV LVT27 LV LVT27 LV
    LVT27 LV LVT27 LV LVT27 LV LVT27 LV LVT27 LV LVT27 LV LVT27 LV LVT27 LV LVT27 LV LVT27 LV
    LVT27 LV LVT27 LV LVT27 LV LVT27 LV LVT27 LV LVT27 LV LVT27 LV LVT27 LV LVT27 LV LVT27 LV
    LVT27 LV LVT27 LV LVT27 LV LVT27 LV LVT27 LV LVT27 LV LVT27 LV LVT27 LV LVT27 LV LVT27 LV
    LVT27 LV LVT27 LV LVT27 LV LVT27 LV LVT27 LV LVT27 LV LVT27 LV LVT27 LV LVT27 LV LVT27 LV
    LVT27 LV LVT27 LV LVT27 LV LVT27 LV LVT27 LV LVT27 LV LVT27 LV LVT27 LV LVT27 LV LVT27 LV
    LVT27 LV LVT27 LV LVT27 LV LVT27 LV LVT27 LV LVT27 LV LVT27 LV LVT27 LV LVT27 LV LVT27 LV
    LVT27 LV LVT27 LV LVT27 LV LVT27 LV LVT27 LV LVT27 LV LVT27 LV LVT27 LV LVT27 LV LVT27 LV
    LVT27 LV LVT27 LV LVT27 LV LVT27 LV LVT27 LV LVT27 LV LVT27 LV LVT27 LV LVT27 LV LVT27 LV
    LVT27 LV LVT27 LV LVT27 LV LVT27 LV LVT27 LV LVT27 LV LVT27 LV LVT27 LV LVT27 LV LVT27 LV
    LVT27 LV LVT27 LV LVT27 LV LVT27 LV LVT27 LV LVT27 LV LVT27 LV LVT27 LV LVT27 LV LVT27 LV
    LVT27 LV LVT27 LV LVT27 LV LVT27 LV LVT27 LV LVT27 LV LVT27 LV LVT27 LV LVT27 LV LVT27 LV
    LVT27 LV LVT27 LV LVT27 LV LVT27 LV LVT27 LV LVT27 LV LVT27 LV LVT27 LV LVT27 LV LVT27 LV
    LVT27 LV LVT27 LV LVT27 LV LVT27 LV LVT27 LV LVT27 LV LVT27 LV LVT27 LV LVT27 LV LVT27 LV
    LVT27 LV LVT27 LV LVT27 LV LVT27 LV LVT27 LV LVT27 LV LVT27 LV LVT27 LV LVT27 LV LVT27 LV
    LVT27 LV LVT27 LV LVT27 LV LVT27 LV LVT27 LV LVT27 LV LVT27 LV LVT27 LV LVT27 LV LVT27 LV
    LVT27 LV LVT27 LV LVT27 LV LVT27 LV LVT27 LV LVT27 LV LVT27 LV LVT27 LV LVT27 LV LVT27 LV
    LVT27 LV LVT27 LV LVT27 LV LVT27 LV LVT27 LV LVT27 LV LVT27 LV LVT27 LV LVT27 LV LVT27 LV
    LVT27 LV LVT27 LV LVT27 LV LVT27 LV LVT27 LV LVT27 LV LVT27 LV LVT27 LV LVT27 LV LVT27 LV
    LVT27 LV LVT27 LV LVT27 LV LVT27 LV LVT27 LV LVT27 LV LVT27 LV LVT27 LV LVT27 LV LVT27 LV
    LVT27 LV LVT27 LV LVT27 LV LVT27 LV LVT27 LV LVT27 LV LVT27 LV LVT27 LV LVT27 LV LVT27 LV
    LVT27 LV LVT27 LV LVT27 LV LVT27 LV LVT27 LV LVT27 LV LVT27 LV LVT27 LV LVT27 LV LVT27 LV
    LVT27 LV LVT27 LV LVT27 LV LVT27 LV LVT27 LV LVT27 LV LVT27 LV LVT27 LV LVT27 LV LVT27 LV
    LVT27 LV LVT27 LV LVT27 LV LVT27 LV LVT27 LV LVT27 LV LVT27 LV LVT27 LV LVT27 LV LVT27 LV
    LVT27 LV LVT27 LV LVT27 LV LVT27 LV LVT27 LV LVT27 LV LVT27 LV LVT27 LV LVT27 LV LVT27 LV
    LVT27 LV LVT27 LV LVT27 LV LVT27 LV LVT27 LV LVT27 LV LVT27 LV LVT27 LV LVT27 LV LVT27 LV
    LVT27 LV LVT27 LV LVT27 LV LVT27 LV LVT27 LV LVT27 LV LVT27 LV LVT27 LV LVT27 LV LVT27 LV
    LVT27 LV LVT27 LV LVT27 LV LVT27 LV LVT27 LV LVT27 LV LVT27 LV LVT27 LV LVT27 LV LVT27 LV
    LVT27 LV LVT27 LV LVT27 LV LVT27 LV LVT27 LV LVT27 LV LVT27 LV LVT27 LV LVT27 LV LVT27 LV
    LVT27 LV LVT27 LV LVT27 LV LVT27 LV LVT27 LV LVT27 LV LVT27 LV LVT27 LV LVT27 LV LVT27 LV
    LVT27 LV LVT27 LV LVT27 LV LVT27 LV LVT27 LV LVT27 LV LVT27 LV LVT27 LV LVT27 LV LVT27 LV
    LVT27 LV LVT27 LV LVT27 LV LVT27 LV LVT27 LV LVT27 LV LVT27 LV LVT27 LV LVT27 LV LVT27 LV
    LVT27 LV LVT27 LV LVT27 LV LVT27 LV LVT27 LV LVT27 LV LVT27 LV LVT27 LV LVT27 LV LVT27 LV
    LVT27 LV LVT27 LV LVT27 LV LVT27 LV LVT27 LV LVT27 LV LVT27 LV LVT27 LV LVT27 LV LVT27 LV
    LVT27 LV LVT27 -12 V23 -4 T49 -8994 EX -737 EX16 -16 EX16 -207 CN -158 EX2 -80 CN12 -513 EX
    -226 EX -149 EX5 -1670 EX3 - EX2 -5 EX4 -40 EX3 -4 EX -165 EX2 -573 EX4 -65 EX5 -317 EX2 -79
    EX4 -70 EX11 -49 EX4 -122 SM EX SM -53 EX15 -41 EX -2 EX2 -10 EX3 SM -45 SM3 EX4 SM2 EX2 -2 PP
    -4 EX -10 PP -50 EX3 -36 EX5 SM EX8 -16 SM2 -44 EX -12 EX2 SM -48 SM3 EX9 SM EX - PP2 -5 EX4 -
    SM EX -92 SM3 EX3 SM2 EX4 -6 EX -2 EX -157 EX SM3 EX8 -21 EX2 SM2 -55 EX2 - EX SM EX SM4 -2
    SM2 -2 SM2 EX -9 EX -10 SM2 -2 EX7 -3 EX5 -67 EX SM2 EX6 - EX -2 EX - EX3 SM - SM2 EX3 PP EX
    -14 EX2 -82 SM3 EX8 SM2 EX3 SM EX -23 EX -81 EX SM2 EX6 SM EX SM2 EX SM EX2 SM EX2 -235 EX SM2
    EX4 -2 SM4 EX2 SM EX2 -27 EX2 -82 SM3 EX8 SM2 EX SM EX2 -106 EX SM EX SM2 EX8 -101 EX SM EX -2
    EX4 SM EX5 -256 SM3 EX9 SM EX2 -245 EX SM5 - SM2 -2 EX4 PP SM PP SM EX -141 SM3 EX4 -2 EX2 SM4
    EX -3 SM -28 EX10 -40 EX6 SM PP EX4 -8 EX -9 EX6 SM2 EX3 -40 PP6 EX13 SM EX2 -405 SM EX7 - EX6
    SM EX -82 EX22 - SM EX7 SM EX2 SM EX2 -122 EX6 -3 EX - EX2 - EX7 PP EX -66 SM5 - EX2 - SM2 EX
    SM EX -347 EX2 SM2 -9 EX2 PP SM -48 SM2 EX5 -3 SM2 EX3 -23 EX -5333 CN16 EX -6 EX15 -11464
    EX12 SM3 EX3 -2496 EX5 -59 EX7 -556 V -3 V4 -484 EX - SM55 -7 EX4 -81 EX -11 EX2 -19627 EX2 -
    CN4 -4700 EX46 -2 EX23 -542 EX5 -3 EX6 CN8 EX8 -2 EX7 -30 EX4 -148 EX3 -1979 EX55 -4 EX50 -8
    EX -14 EX -22 EX5 - EX15 -1360 EX7 - EX17 -2 EX7 - EX2 - EX5 -100 EX -160 EX7 -375 EX -61 EX4
    -508 EX4 -254 EX2 -736 EX7 -109 EX7 -2203 RI26 -507 EX5 -789504 CN32 EX96 CN128 EX240 CN3600"
  | word =>
    "-10 LF NL2 CR -18 WSegSpace - DQ -4 SQ -4 MN - MB - NU10 ML MN -5 LE26 -4 EX - LE26 -10 NL -36
    LE -2 FO -7 LE - ML -2 LE -5 LE23 - LE31 - LE480 -6 LE34 Extend112 LE5 - LE2 -2 LE4 MN LE -6
    LE ML LE3 - LE - LE20 - LE83 - LE139 - Extend7 LE166 - LE38 -2 LE4 - LE ML LE41 MN LE -6
    Extend45 - Extend - Extend2 - Extend2 - Extend -8 HL27 -4 HL4 LE ML -11 NU6 -6 MN2 -2 Extend11
    - FO -3 LE43 Extend21 NU10 - NU MN - LE2 Extend LE99 - LE Extend7 NU - Extend6 LE2 Extend2 -
    Extend4 LE2 NU10 LE3 -2 LE -15 LE2 Extend LE30 Extend27 -2 LE89 Extend11 LE -14 NU10 LE33
    Extend9 LE2 -2 MN - LE -2 Extend -2 LE22 Extend4 LE Extend9 LE Extend3 LE Extend5 -18 LE25
    Extend3 -4 LE11 -5 LE24 - LE6 - NU2 -5 Extend9 LE42 Extend24 NU Extend33 LE54 Extend3 LE
    Extend18 LE Extend7 LE10 Extend2 -2 NU10 - LE16 Extend3 - LE8 -2 LE2 -2 LE22 - LE7 - LE -3 LE4
    -2 Extend LE Extend7 -2 Extend2 -2 Extend3 LE -8 Extend -4 LE2 - LE3 Extend2 -2 NU10 LE2 -10
    LE - Extend -2 Extend3 - LE6 -4 LE2 -2 LE22 - LE7 - LE2 - LE2 - LE2 -2 Extend - Extend5 -4
    Extend2 -2 Extend3 -3 Extend -7 LE4 - LE -7 NU10 Extend2 LE3 Extend -11 Extend3 - LE9 - LE3 -
    LE22 - LE7 - LE2 - LE5 -2 Extend LE Extend8 - Extend3 - Extend3 -2 LE -15 LE2 Extend2 -2 NU10
    -9 LE Extend6 - Extend3 - LE8 -2 LE2 -2 LE22 - LE7 - LE2 - LE5 -2 Extend LE Extend7 -2 Extend2
    -2 Extend3 -7 Extend3 -4 LE2 - LE3 Extend2 -2 NU10 - LE -16 Extend LE - LE6 -3 LE3 - LE4 -3
    LE2 - LE - LE2 -3 LE2 -3 LE3 -3 LE12 -4 Extend5 -3 Extend3 - Extend4 -2 LE -6 Extend -14 NU10
    -16 Extend5 LE8 - LE3 - LE23 - LE16 -2 Extend LE Extend7 - Extend3 - Extend4 -7 Extend2 - LE3
    -2 LE -2 LE2 Extend2 -2 NU10 -16 LE Extend3 - LE8 - LE3 - LE23 - LE10 - LE5 -2 Extend LE
    Extend7 - Extend3 - Extend4 -7 Extend2 -6 LE2 - LE2 Extend2 -2 NU10 - LE2 Extend -12 Extend4
    LE9 - LE3 - LE41 Extend2 LE Extend7 - Extend3 - Extend4 LE -5 LE3 Extend -7 LE3 Extend2 -2
    NU10 -10 LE6 - Extend3 - LE18 -3 LE24 - LE9 - LE -2 LE7 -3 Extend -4 Extend6 - Extend -
    Extend8 -6 NU10 -2 Extend2 -61 Extend -2 Extend7 -12 Extend8 - NU10 -87 Extend -2 Extend9 -11
    Extend7 - NU10 -38 LE -23 Extend2 -6 NU10 -11 Extend - Extend - Extend -4 Extend2 LE8 - LE36
    -4 Extend20 - Extend2 LE5 Extend11 - Extend36 -9 Extend -100 Extend20 - NU10 -12 Extend4 -4
    Extend3 - Extend3 -2 Extend7 -3 Extend4 -13 Extend12 - Extend NU10 Extend4 -2 LE38 - LE -5 LE
    -2 LE43 - LE333 - LE4 -2 LE7 - LE - LE4 -2 LE41 - LE4 -2 LE33 - LE4 -2 LE7 - LE - LE4 -2 LE15
    - LE57 - LE4 -2 LE67 -2 Extend3 -32 LE16 -16 LE86 -2 LE6 -3 LE620 -2 LE17 WSegSpace LE26 -5
    LE75 -3 LE11 -7 LE18 Extend4 -9 LE19 Extend3 -11 LE18 Extend2 -12 LE13 - LE3 - Extend2 -64
    Extend32 -9 Extend -2 NU10 -33 Extend3 FO Extend NU10 -6 LE89 -7 LE5 Extend2 LE34 Extend LE -5
    LE70 -10 LE31 - Extend12 -4 Extend12 -10 NU10 -128 NU11 -37 LE23 Extend5 -57 Extend10 -
    Extend29 -2 Extend NU10 -6 NU10 -22 Extend31 -49 Extend5 LE47 Extend17 LE8 -3 NU10 -17 Extend9
    -12 Extend3 LE30 Extend13 LE2 NU10 LE44 Extend14 -12 LE36 Extend20 -8 NU10 -3 LE3 NU10 LE36 -2
    LE11 -5 LE43 -2 LE3 -16 Extend3 - Extend21 LE4 Extend LE6 Extend LE2 Extend3 LE -5 LE192
    Extend64 LE278 -2 LE6 -2 LE38 -2 LE6 -2 LE8 - LE - LE - LE - LE31 -2 LE53 - LE7 - LE -3 LE3 -
    LE7 -3 LE4 -2 LE6 -4 LE13 -5 LE3 - LE7 -3 WSegSpace7 - WSegSpace3 - Extend ZWJ FO2 -8 MB2 -10
    MB -2 ML NL2 FO5 EX -15 EX2 -3 MN -15 EX -10 WSegSpace FO5 - FO10 - LE -13 LE -16 LE13 -51
    Extend33 -17 LE -4 LE -2 LE10 - LE -3 LE5 -6 LE - LE - LE - LE4 - LE11 -2 LE4 -5 LE5 -4 LE -17
    LE41 -813 LE52 -1814 LE229 -6 LE4 Extend3 LE2 -12 LE38 - LE -5 LE -2 LE56 -7 LE -15 Extend
    LE23 -9 LE7 - LE7 - LE7 - LE7 - LE7 - LE7 - LE7 - LE7 - Extend32 -47 LE -464 WSegSpace -4 LE
    -36 Extend6 - KA5 -5 LE2 -92 Extend2 KA2 -3 KA91 - KA4 -5 LE43 - LE94 -17 LE32 -48 KA16 -208
    KA47 - KA88 -27816 LE1165 -67 LE46 -2 LE269 -3 LE16 NU10 LE2 -20 LE47 Extend4 - Extend10 -
    LE31 Extend2 LE80 Extend2 -22 LE198 -2 LE2 - LE - LE8 -21 LE16 Extend LE3 Extend LE4 Extend
    LE23 Extend5 -4 Extend -19 LE52 -12 Extend2 LE50 Extend18 -10 NU10 -6 Extend18 LE6 -3 LE - LE2
    Extend NU10 LE28 Extend8 -2 LE23 Extend13 -12 LE29 -3 Extend4 LE47 Extend14 -14 LE NU10 -11
    Extend -10 NU10 -6 LE41 Extend14 -9 LE3 Extend LE8 Extend2 -2 NU10 -33 Extend3 -50 Extend -
    Extend3 -2 Extend2 -5 Extend2 - Extend -30 LE11 Extend5 -2 LE3 Extend2 -10 LE6 -2 LE6 -2 LE6
    -9 LE7 - LE7 - LE58 -6 LE115 Extend8 - Extend2 -2 NU10 -6 LE11172 -12 LE23 -4 LE49 -8964 LE7
    -12 LE5 -5 HL Extend HL10 - HL13 - HL5 - HL - HL2 - HL2 - HL10 LE98 -33 LE363 -18 LE64 -2 LE54
    -40 LE12 -4 Extend16 -3 ML -12 Extend16 -3 EX2 -24 EX3 MN - MB - MN ML -26 LE5 - LE135 -2 FO
    -7 MB -4 MN - MB - NU10 ML MN -5 LE26 -4 EX - LE26 -11 KA56 Extend2 LE31 -3 LE6 -2 LE6 -2 LE6
    -2 LE3 -28 FO3 -4 LE12 - LE26 - LE19 - LE2 - LE15 -2 LE14 -34 LE123 -69 LE53 -136 Extend -130
    LE29 -3 LE49 -15 Extend -31 LE32 -13 LE30 -5 LE38 Extend5 -5 LE30 -2 LE36 -4 LE8 - LE5 -42
    LE158 -2 NU10 -6 LE36 -4 LE36 -4 LE40 -8 LE52 -12 LE11 - LE15 - LE7 - LE2 - LE11 - LE15 - LE7
    - LE2 -3 LE52 -12 LE311 -9 LE22 -10 LE8 -24 LE6 - LE42 - LE9 -69 LE6 -2 LE - LE44 - LE2 -3 LE
    -2 LE23 -10 LE23 -9 LE31 -65 LE19 - LE2 -10 LE22 -10 LE26 -70 LE56 -6 LE2 -64 LE Extend3 -
    Extend2 -5 Extend4 LE4 - LE3 - LE29 -2 Extend3 -4 Extend -32 LE29 -3 LE29 -35 LE8 - LE28
    Extend2 -25 LE54 -10 LE22 -10 LE19 -13 LE18 -110 LE73 -55 LE51 -13 LE51 -13 LE36 Extend4 -8
    NU10 -6 NU10 LE28 -3 Extend5 - LE23 -250 LE42 - Extend2 -3 LE2 -16 LE3 -55 Extend4 LE29 -10 LE
    -8 LE22 Extend11 -31 LE18 Extend4 -42 LE21 -27 LE23 -9 Extend3 LE53 Extend15 -31 NU10 Extend
    LE2 Extend2 LE -9 Extend4 LE45 Extend11 -2 NU -4 Extend -10 NU -2 LE25 -7 NU10 -6 Extend3 LE36
    Extend14 - NU10 -4 LE Extend2 LE -8 LE35 Extend -2 LE -9 Extend3 LE48 Extend14 LE4 -4 Extend4
    - Extend2 NU10 LE - LE -35 LE18 - LE25 Extend12 -6 Extend LE2 Extend -62 LE7 - LE - LE4 - LE15
    - LE10 -7 LE47 Extend12 -5 NU10 -6 Extend4 - LE8 -2 LE2 -2 LE22 - LE7 - LE2 - LE5 - Extend2 LE
    Extend7 -2 Extend2 -2 Extend3 -2 LE -6 Extend -5 LE5 Extend2 -2 Extend7 -3 Extend5 -11 LE10 -
    LE -2 LE - LE38 - LE Extend9 - Extend -2 Extend - Extend4 - Extend5 LE Extend LE -13 Extend2
    -29 LE53 Extend18 LE4 -5 NU10 -4 Extend LE3 -30 LE48 Extend20 LE2 - LE -8 NU10 -166 LE47
    Extend7 -2 Extend9 -23 LE4 Extend2 -34 LE48 Extend17 -3 LE -11 NU10 -38 LE43 Extend13 LE -7
    NU10 -6 NU20 -57 Extend15 -4 NU10 -198 LE44 Extend15 -101 LE64 NU10 -21 LE8 -2 LE -2 LE8 - LE2
    - LE24 Extend6 - Extend2 -2 Extend4 LE Extend LE Extend2 -12 NU10 -70 LE8 -2 LE39 Extend7 -2
    Extend7 LE - LE Extend -27 LE Extend10 LE40 Extend7 LE Extend4 -8 Extend -8 LE Extend11 LE46
    Extend16 -3 LE -18 LE73 -199 LE33 -15 NU10 -6 LE9 - LE37 Extend8 - Extend8 LE -15 NU10 -24
    LE30 -2 Extend22 - Extend14 -73 LE7 - LE2 - LE38 Extend6 -3 Extend - Extend2 - Extend7 LE
    Extend -8 NU10 -6 LE6 - LE2 - LE32 Extend5 - Extend2 - Extend5 LE -7 NU10 -310 LE19 Extend4 -9
    Extend2 LE Extend LE13 - LE34 Extend7 -3 Extend5 -13 NU10 Extend -85 LE -79 LE922 -102 LE111
    -17 LE196 -2636 LE97 -15 LE1072 FO16 Extend LE6 Extend15 -10 LE3995 -5 LE583 -6841 LE30
    Extend18 NU10 -1734 LE569 -7 LE31 - NU10 -6 LE79 - NU10 -6 LE30 -2 Extend5 -11 LE48 Extend7 -9
    LE4 -12 NU10 -9 LE21 -5 LE19 -432 LE45 -3 NU10 -198 LE64 -128 LE75 -4 Extend LE Extend55 -7
    Extend4 LE13 -64 LE2 - LE Extend -11 Extend2 -16382 KA4 - KA7 - KA2 - KA -287 KA3 -50 KA -14
    KA4 -2712 LE107 -5 LE13 -3 LE9 -7 LE10 -3 Extend2 - FO4 -4172 NU10 -518 Extend46 -2 Extend23
    -542 Extend5 -3 Extend6 FO8 Extend8 -2 Extend7 -30 Extend4 -148 Extend3 -443 LE85 - LE71 - LE2
    -2 LE -2 LE2 -2 LE4 - LE12 - LE - LE7 - LE65 - LE4 -2 LE8 - LE7 - LE28 - LE4 - LE5 - LE -3 LE7
    - LE340 -2 LE25 - LE25 - LE31 - LE25 - LE31 - LE25 - LE31 - LE25 - LE31 - LE25 - LE8 -2 NU50
    -512 Extend55 -4 Extend50 -8 Extend -14 Extend -22 Extend5 - Extend15 -1104 LE31 -6 LE6 -213
    Extend7 - Extend17 -2 Extend7 - Extend2 - Extend5 -5 LE62 -33 Extend -112 LE45 -3 Extend7 LE7
    -2 NU10 -4 LE -321 LE30 Extend -17 LE44 Extend4 NU10 -470 LE28 Extend4 NU10 -214 LE30 Extend2
    LE NU10 -485 LE7 - LE4 - LE2 - LE15 - LE197 -11 Extend7 -41 LE68 Extend7 LE -4 NU10 -1190 LE4
    - LE27 - LE2 - LE -2 LE - LE10 - LE4 - LE - LE -6 LE -4 LE - LE - LE - LE3 - LE2 - LE -2 LE -
    LE - LE - LE - LE - LE2 - LE -2 LE4 - LE7 - LE4 - LE4 - LE - LE10 - LE17 -5 LE3 - LE5 - LE17
    -628 LE26 -6 LE26 -6 LE26 -92 RI26 -507 Extend5 -2032 NU10 -787463 FO -30 Extend96 -128
    Extend240"
  | sentence =>
    "-9 SP LF SP2 CR -18 SP ST CL -4 CL3 -2 SC2 AT - NU10 SC2 -3 ST - UP26 CL - CL -3 LO26 CL - CL
    -7 SE -26 SP -9 LO CL - FO -7 LO -4 LO CL -4 UP23 - UP7 LO24 - LO8 UP LO UP LO UP LO UP LO UP
    LO UP LO UP LO UP LO UP LO UP LO UP LO UP LO UP LO UP LO UP LO UP LO UP LO UP LO UP LO UP LO
    UP LO UP LO UP LO UP LO UP LO UP LO UP LO UP LO2 UP LO UP LO UP LO UP LO UP LO UP LO UP LO UP
    LO2 UP LO UP LO UP LO UP LO UP LO UP LO UP LO UP LO UP LO UP LO UP LO UP LO UP LO UP LO UP LO
    UP LO UP LO UP LO UP LO UP LO UP LO UP LO UP LO UP2 LO UP LO UP LO3 UP2 LO UP LO UP2 LO UP3
    LO2 UP4 LO UP2 LO UP3 LO3 UP2 LO UP2 LO UP LO UP LO UP2 LO UP LO2 UP LO UP2 LO UP3 LO UP LO
    UP2 LO2 LE UP LO3 LE4 UP2 LO UP2 LO UP2 LO UP LO UP LO UP LO UP LO UP LO UP LO UP LO UP LO2 UP
    LO UP LO UP LO UP LO UP LO UP LO UP LO UP LO UP LO2 UP2 LO UP LO UP3 LO UP LO UP LO UP LO UP
    LO UP LO UP LO UP LO UP LO UP LO UP LO UP LO UP LO UP LO UP LO UP LO UP LO UP LO UP LO UP LO
    UP LO UP LO UP LO UP LO UP LO UP LO UP LO UP LO UP LO UP LO7 UP2 LO UP2 LO2 UP LO UP4 LO UP LO
    UP LO UP LO UP LO69 LE LO36 LE7 LO2 -4 LE12 -14 LO5 -7 LE - LE -17 EX112 UP LO UP LO LE - UP
    LO -2 LO4 SC UP -6 UP - UP3 - UP - UP2 LO UP17 - UP9 LO35 UP LO2 UP3 LO3 UP LO UP LO UP LO UP
    LO UP LO UP LO UP LO UP LO UP LO UP LO UP LO UP LO5 UP LO - UP LO UP2 LO2 UP51 LO48 UP LO UP
    LO UP LO UP LO UP LO UP LO UP LO UP LO UP LO UP LO UP LO UP LO UP LO UP LO UP LO UP LO UP LO -
    EX7 UP LO UP LO UP LO UP LO UP LO UP LO UP LO UP LO UP LO UP LO UP LO UP LO UP LO UP LO UP LO
    UP LO UP LO UP LO UP LO UP LO UP LO UP LO UP LO UP LO UP LO UP LO UP LO UP2 LO UP LO UP LO UP
    LO UP LO UP LO UP LO2 UP LO UP LO UP LO UP LO UP LO UP LO UP LO UP LO UP LO UP LO UP LO UP LO
    UP LO UP LO UP LO UP LO UP LO UP LO UP LO UP LO UP LO UP LO UP LO UP LO UP LO UP LO UP LO UP
    LO UP LO UP LO UP LO UP LO UP LO UP LO UP LO UP LO UP LO UP LO UP LO UP LO UP LO UP LO UP LO
    UP LO UP LO UP LO UP LO UP LO - UP38 -2 LE -3 SC -2 LO41 ST -7 EX45 - EX - EX2 - EX2 - EX -8
    LE27 -4 LE5 -12 NU6 -6 SC2 -2 EX11 - FO ST3 LE43 EX21 NU10 - NU2 - LE2 EX LE99 ST LE EX7 NU -
    EX6 LE2 EX2 - EX4 LE2 NU10 LE3 -2 LE ST3 -12 FO LE EX LE30 EX27 -2 LE89 EX11 LE -14 NU10 LE33
    EX9 LE2 -2 SC ST LE -2 EX -2 LE22 EX4 LE EX9 LE EX3 LE EX5 -9 ST - ST -3 ST2 - LE25 EX3 -4
    LE11 -5 LE24 - LE6 - NU2 -5 EX9 LE42 EX24 NU EX33 LE54 EX3 LE EX18 LE EX7 LE10 EX2 ST2 NU10 -
    LE16 EX3 - LE8 -2 LE2 -2 LE22 - LE7 - LE -3 LE4 -2 EX LE EX7 -2 EX2 -2 EX3 LE -8 EX -4 LE2 -
    LE3 EX2 -2 NU10 LE2 -10 LE - EX -2 EX3 - LE6 -4 LE2 -2 LE22 - LE7 - LE2 - LE2 - LE2 -2 EX -
    EX5 -4 EX2 -2 EX3 -3 EX -7 LE4 - LE -7 NU10 EX2 LE3 EX -11 EX3 - LE9 - LE3 - LE22 - LE7 - LE2
    - LE5 -2 EX LE EX8 - EX3 - EX3 -2 LE -15 LE2 EX2 -2 NU10 -9 LE EX6 - EX3 - LE8 -2 LE2 -2 LE22
    - LE7 - LE2 - LE5 -2 EX LE EX7 -2 EX2 -2 EX3 -7 EX3 -4 LE2 - LE3 EX2 -2 NU10 - LE -16 EX LE -
    LE6 -3 LE3 - LE4 -3 LE2 - LE - LE2 -3 LE2 -3 LE3 -3 LE12 -4 EX5 -3 EX3 - EX4 -2 LE -6 EX -14
    NU10 -16 EX5 LE8 - LE3 - LE23 - LE16 -2 EX LE EX7 - EX3 - EX4 -7 EX2 - LE3 -2 LE -2 LE2 EX2 -2
    NU10 -16 LE EX3 - LE8 - LE3 - LE23 - LE10 - LE5 -2 EX LE EX7 - EX3 - EX4 -7 EX2 -6 LE2 - LE2
    EX2 -2 NU10 - LE2 EX -12 EX4 LE9 - LE3 - LE41 EX2 LE EX7 - EX3 - EX4 LE -5 LE3 EX -7 LE3 EX2
    -2 NU10 -10 LE6 - EX3 - LE18 -3 LE24 - LE9 - LE -2 LE7 -3 EX -4 EX6 - EX - EX8 -6 NU10 -2 EX2
    -13 LE48 EX LE2 EX7 -5 LE7 EX8 - NU10 -39 LE2 - LE - LE5 - LE24 - LE - LE10 EX LE2 EX9 LE -2
    LE5 - LE - EX7 - NU10 -2 LE4 -32 LE -23 EX2 -6 NU10 -11 EX - EX - EX CL4 EX2 LE8 - LE36 -4
    EX20 - EX2 LE5 EX11 - EX36 -9 EX -57 LE43 EX20 LE NU10 ST2 -4 LE6 EX4 LE4 EX3 LE EX3 LE2 EX7
    LE3 EX4 LE13 EX12 LE EX NU10 EX4 -2 UP38 - UP -5 UP -2 LE43 - LO LE332 - LE4 -2 LE7 - LE - LE4
    -2 LE41 - LE4 -2 LE33 - LE4 -2 LE7 - LE - LE4 -2 LE15 - LE57 - LE4 -2 LE67 -2 EX3 -2 ST -4 ST2
    -23 LE16 -16 UP86 -2 LO6 -3 LE620 - ST LE17 SP LE26 CL2 -3 LE75 -3 LE11 -7 LE18 EX4 -9 LE19
    EX3 ST2 -9 LE18 EX2 -12 LE13 - LE3 - EX2 -12 LE52 EX32 ST2 - LE -4 LE EX -2 NU10 -24 SC ST -4
    SC ST - EX3 FO EX NU10 -6 LE89 -7 LE5 EX2 LE34 EX LE -5 LE70 -10 LE31 - EX12 -4 EX12 -8 ST2
    NU10 LE30 -2 LE5 -11 LE44 -4 LE26 -6 NU11 -37 LE23 EX5 -4 LE53 EX10 - EX29 -2 EX NU10 -6 NU10
    -13 LE ST4 -4 EX31 -49 EX5 LE47 EX17 LE8 - ST2 NU10 ST2 -2 ST2 -11 EX9 -9 ST3 EX3 LE30 EX13
    LE2 NU10 LE44 EX14 -12 LE36 EX20 -3 ST2 -3 NU10 -3 LE3 NU10 LE36 ST2 LO9 UP LO -5 LE43 -2 LE3
    -16 EX3 - EX21 LE4 EX LE6 EX LE2 EX3 LE -5 LO192 EX64 UP LO UP LO UP LO UP LO UP LO UP LO UP
    LO UP LO UP LO UP LO UP LO UP LO UP LO UP LO UP LO UP LO UP LO UP LO UP LO UP LO UP LO UP LO
    UP LO UP LO UP LO UP LO UP LO UP LO UP LO UP LO UP LO UP LO UP LO UP LO UP LO UP LO UP LO UP
    LO UP LO UP LO UP LO UP LO UP LO UP LO UP LO UP LO UP LO UP LO UP LO UP LO UP LO UP LO UP LO
    UP LO UP LO UP LO UP LO UP LO UP LO UP LO UP LO UP LO UP LO UP LO UP LO UP LO UP LO UP LO UP
    LO UP LO UP LO UP LO UP LO UP LO UP LO9 UP LO UP LO UP LO UP LO UP LO UP LO UP LO UP LO UP LO
    UP LO UP LO UP LO UP LO UP LO UP LO UP LO UP LO UP LO UP LO UP LO UP LO UP LO UP LO UP LO UP
    LO UP LO UP LO UP LO UP LO UP LO UP LO UP LO UP LO UP LO UP LO UP LO UP LO UP LO UP LO UP LO
    UP LO UP LO UP LO UP LO UP LO UP LO UP LO UP LO UP LO9 UP8 LO6 -2 UP6 -2 LO8 UP8 LO8 UP8 LO6
    -2 UP6 -2 LO8 - UP - UP - UP - UP LO8 UP8 LO14 -2 LO8 UP8 LO8 UP8 LO8 UP8 LO5 - LO2 UP5 - LO
    -3 LO3 - LO2 UP5 -3 LO4 -2 LO2 UP4 -4 LO8 UP5 -5 LO3 - LO2 UP5 -3 SP11 FO EX2 FO2 -3 SC2 -3
    CL8 -4 AT -3 SE2 FO5 SP -9 CL2 - ST2 -7 CL2 ST3 -21 SP FO5 - FO10 - LO -11 CL2 LO -13 CL2 -
    LO13 -51 EX33 -17 UP -4 UP -2 LO UP3 LO2 UP3 LO - UP -3 UP5 -6 UP - UP - UP - UP4 - LO UP4 LO
    LE4 LO -2 LO2 UP2 -5 UP LO4 -4 LO -17 UP16 LO16 LE3 UP LO LE4 -383 CL4 -29 CL2 -395 UP26 LO26
    -625 CL6 -7 CL14 -79 CL2 -31 CL10 -403 CL22 -63 CL4 -32 CL2 -514 UP48 LO48 UP LO UP3 LO2 UP LO
    UP LO UP LO UP4 LO UP LO2 UP LO8 UP3 LO UP LO UP LO UP LO UP LO UP LO UP LO UP LO UP LO UP LO
    UP LO UP LO UP LO UP LO UP LO UP LO UP LO UP LO UP LO UP LO UP LO UP LO UP LO UP LO UP LO UP
    LO UP LO UP LO UP LO UP LO UP LO UP LO UP LO UP LO UP LO UP LO UP LO UP LO UP LO UP LO UP LO
    UP LO UP LO UP LO UP LO UP LO UP LO UP LO UP LO UP LO2 -6 UP LO UP LO EX3 UP LO -5 ST3 -4 LO38
    - LO -5 LO -2 LE56 -7 LE -15 EX LE23 -9 LE7 - LE7 - LE7 - LE7 - LE7 - LE7 - LE7 - LE7 - EX32
    CL14 -14 CL2 -2 CL10 -4 ST LE -12 ST -5 CL -16 ST2 CL8 -419 SP SC ST -2 LE3 CL10 -2 CL8 - CL3
    - LE9 EX6 - LE5 -2 LE5 -4 LE86 -2 EX2 -2 LE3 - LE90 - LE4 -5 LE43 - LE94 -17 LE32 -48 LE16
    -512 LE6592 -64 LE22157 -67 LE46 - ST LE269 - ST2 LE16 NU10 LE2 -20 UP LO UP LO UP LO UP LO UP
    LO UP LO UP LO UP LO UP LO UP LO UP LO UP LO UP LO UP LO UP LO UP LO UP LO UP LO UP LO UP LO
    UP LO UP LO UP LO LE EX4 - EX10 - LE UP LO UP LO UP LO UP LO UP LO UP LO UP LO UP LO UP LO UP
    LO UP LO UP LO UP LO UP LO3 EX2 LE80 EX2 - ST -3 ST -31 LE9 -2 UP LO UP LO UP LO UP LO UP LO
    UP LO UP LO3 UP LO UP LO UP LO UP LO UP LO UP LO UP LO UP LO UP LO UP LO UP LO UP LO UP LO UP
    LO UP LO UP LO UP LO UP LO UP LO UP LO UP LO UP LO UP LO UP LO UP LO UP LO UP LO UP LO UP LO
    UP LO UP LO10 UP LO UP LO UP2 LO UP LO UP LO UP LO UP LO LE -2 UP LO UP LO LE UP LO UP LO3 UP
    LO UP LO UP LO UP LO UP LO UP LO UP LO UP LO UP LO UP LO UP5 LO UP5 LO UP LO UP LO UP LO UP LO
    UP LO UP LO UP LO UP4 LO UP LO UP2 LO -2 UP LO - LO - LO UP LO UP LO UP LO UP -21 LO3 UP LO LE
    LO3 LE7 EX LE3 EX LE4 EX LE23 EX5 -4 EX -19 LE52 -2 ST2 -8 EX2 LE50 EX18 -8 ST2 NU10 -6 EX18
    LE6 -3 LE - LE2 EX NU10 LE28 EX8 - ST LE23 EX13 -12 LE29 -3 EX4 LE47 EX14 -7 ST2 -5 LE NU10 -6
    LE5 EX LE10 NU10 LE5 - LE41 EX14 -9 LE3 EX LE8 EX2 -2 NU10 -3 ST3 LE23 -3 LE EX3 LE50 EX LE
    EX3 LE2 EX2 LE5 EX2 LE EX LE -24 LE3 -2 LE11 EX5 ST2 LE3 EX2 -10 LE6 -2 LE6 -2 LE6 -9 LE7 -
    LE7 - LO43 - LO14 -6 LO80 LE35 EX8 ST EX2 -2 NU10 -6 LE11172 -12 LE23 -4 LE49 -8452 LE366 -2
    LE106 -38 LO7 -12 LO5 -5 LE EX LE10 - LE13 - LE5 - LE - LE2 - LE2 - LE108 -33 LE363 CL2 -16
    LE64 -2 LE54 -40 LE12 -4 EX16 SC2 ST SC2 ST2 CL2 -7 EX16 - SC2 -2 CL16 -2 CL2 -7 SC2 AT - SC2
    ST2 SC CL6 -4 SC -12 LE5 - LE135 -2 FO - ST -6 CL2 -2 SC2 AT - NU10 SC2 -3 ST - UP26 CL - CL
    -3 LO26 CL - CL - CL2 ST CL2 SC - LE56 EX2 LE31 -3 LE6 -2 LE6 -2 LE6 -2 LE3 -28 FO3 -4 LE12 -
    LE26 - LE19 - LE2 - LE15 -2 LE14 -34 LE123 -69 LE53 -136 EX -130 LE29 -3 LE49 -15 EX -31 LE32
    -13 LE30 -5 LE38 EX5 -5 LE30 -2 LE36 -4 LE8 - LE5 -42 UP40 LO40 LE78 -2 NU10 -6 UP36 -4 LO36
    -4 LE40 -8 LE52 -12 UP11 - UP15 - UP7 - UP2 - LO11 - LO15 - LO7 - LO2 -3 LE52 -12 LE311 -9
    LE22 -10 LE8 -24 LO LE2 LO3 - LO42 - LO9 -69 LE6 -2 LE - LE44 - LE2 -3 LE -2 LE23 -10 LE23 -9
    LE31 -65 LE19 - LE2 -10 LE22 -10 LE26 -70 LE56 -6 LE2 -64 LE EX3 - EX2 -5 EX4 LE4 - LE3 - LE29
    -2 EX3 -4 EX -22 ST2 -8 LE29 -3 LE29 -35 LE8 - LE28 EX2 -25 LE54 -10 LE22 -10 LE19 -13 LE18
    -110 LE73 -55 UP51 -13 LO51 -13 LE36 EX4 -8 NU10 -6 NU10 LE6 UP22 -3 EX5 - LE LO22 -250 LE42 -
    EX2 -3 LE2 -16 LE3 -55 EX4 LE29 -10 LE -8 LE22 EX11 -4 ST5 -22 LE18 EX4 ST4 -38 LE21 -27 LE23
    -9 EX3 LE53 EX15 ST2 -29 NU10 EX LE2 EX2 LE -9 EX4 LE45 EX11 -2 NU ST4 EX -10 NU -2 LE25 -7
    NU10 -6 EX3 LE36 EX14 - NU10 - ST3 LE EX2 LE -8 LE35 EX -2 LE -9 EX3 LE48 EX14 LE4 ST2 -2 EX4
    ST EX2 NU10 LE - LE - ST2 -32 LE18 - LE25 EX12 ST2 - ST2 - EX LE2 EX -62 LE7 - LE - LE4 - LE15
    - LE10 ST -6 LE47 EX12 -5 NU10 -6 EX4 - LE8 -2 LE2 -2 LE22 - LE7 - LE2 - LE5 - EX2 LE EX7 -2
    EX2 -2 EX3 -2 LE -6 EX -5 LE5 EX2 -2 EX7 -3 EX5 -11 LE10 - LE -2 LE - LE38 - LE EX9 - EX -2 EX
    - EX4 - EX5 LE EX LE ST2 -11 EX2 -29 LE53 EX18 LE4 ST2 -3 NU10 -4 EX LE3 -30 LE48 EX20 LE2 -
    LE -8 NU10 -166 LE47 EX7 -2 EX9 - ST2 -5 ST15 LE4 EX2 -34 LE48 EX17 ST2 - LE -11 NU10 -38 LE43
    EX13 LE -7 NU10 -6 NU20 -28 LE27 -2 EX15 -4 NU10 -2 ST3 - LE7 -185 LE44 EX15 -101 UP32 LO32
    NU10 -21 LE8 -2 LE -2 LE8 - LE2 - LE24 EX6 - EX2 -2 EX4 LE EX LE EX2 ST - ST -9 NU10 -70 LE8
    -2 LE39 EX7 -2 EX7 LE - LE EX -27 LE EX10 LE40 EX7 LE EX4 -3 ST2 -3 EX -8 LE EX11 LE46 EX16 -
    ST2 LE -18 LE73 -199 LE33 -15 NU10 -6 LE9 - LE37 EX8 - EX8 LE ST2 -13 NU10 -24 LE30 -2 EX22 -
    EX14 -73 LE7 - LE2 - LE38 EX6 -3 EX - EX2 - EX7 LE EX -8 NU10 -6 LE6 - LE2 - LE32 EX5 - EX2 -
    EX5 LE -7 NU10 -310 LE19 EX4 ST2 -7 EX2 LE EX LE13 - LE34 EX7 -3 EX5 ST2 -11 NU10 EX -85 LE
    -79 LE922 -102 LE111 -17 LE196 -2636 LE97 -15 LE1072 FO16 EX LE6 EX15 -10 LE3995 -5 LE583
    -6841 LE30 EX18 NU10 -1734 LE569 -7 LE31 - NU10 -4 ST2 LE79 - NU10 -6 LE30 -2 EX5 ST -10 LE48
    EX7 ST2 -7 LE4 ST -11 NU10 -9 LE21 -5 LE19 -432 LE45 - ST2 NU10 -198 UP32 LO32 -24 ST -103
    LE75 -4 EX LE EX55 -7 EX4 LE13 -64 LE2 - LE EX -11 EX2 -14 LE6136 -8 LE1238 -41 LE10 -8935 LE4
    - LE7 - LE2 - LE291 -15 LE -29 LE3 -2 LE -14 LE4 -8 LE396 -2308 LE107 -5 LE13 -3 LE9 -7 LE10
    -3 EX2 ST FO4 -4172 NU10 -518 EX46 -2 EX23 -542 EX5 -3 EX6 FO8 EX8 -2 EX7 -30 EX4 -148 EX3
    -443 UP26 LO26 UP26 LO7 - LO18 UP26 LO26 UP - UP2 -2 UP -2 UP2 -2 UP4 - UP8 LO4 - LO - LO7 -
    LO11 UP26 LO26 UP2 - UP4 -2 UP8 - UP7 - LO26 UP2 - UP4 - UP5 - UP -3 UP7 - LO26 UP26 LO26 UP26
    LO26 UP26 LO26 UP26 LO26 UP26 LO26 UP26 LO28 -2 UP25 - LO25 - LO6 UP25 - LO25 - LO6 UP25 -
    LO25 - LO6 UP25 - LO25 - LO6 UP25 - LO25 - LO6 UP LO -2 NU50 -512 EX55 -4 EX50 -8 EX -14 EX -3
    ST -18 EX5 - EX15 -1104 LO10 LE LO20 -6 LO6 -213 EX7 - EX17 -2 EX7 - EX2 - EX5 -5 LO62 -33 EX
    -112 LE45 -3 EX7 LE7 -2 NU10 -4 LE -321 LE30 EX -17 LE44 EX4 NU10 -470 LE28 EX4 NU10 -214 LE30
    EX2 LE NU10 -485 LE7 - LE4 - LE2 - LE15 - LE197 -11 EX7 -41 UP34 LO34 EX7 LE -4 NU10 -1190 LE4
    - LE27 - LE2 - LE -2 LE - LE10 - LE4 - LE - LE -6 LE -4 LE - LE - LE - LE3 - LE2 - LE -2 LE -
    LE - LE - LE - LE - LE2 - LE -2 LE4 - LE7 - LE4 - LE4 - LE - LE10 - LE17 -5 LE3 - LE5 - LE17
    -628 UP26 -6 UP26 -6 UP26 -1260 CL3 -1399 NU10 -1030 LE42720 -32 LE4154 -6 LE222 -2 LE5762 -14
    LE7473 -15 LE622 -2466 LE542 -1506 LE4939 -5 LE4192 -711761 FO -30 EX96 -128 EX240"

/-- The code points whose part has a word in the table. -/
def codes (u : TextUnit) (value : String) : CodeSet := codesWith u.table (· == value)

/-- The code points that play the part with a name. -/
def named? (u : TextUnit) (name : String) : Option CodeSet :=
  (u.names.lookup name).map u.codes

end TextUnit

end AgentConvert.Unicode
