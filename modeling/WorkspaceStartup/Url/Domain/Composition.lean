import WorkspaceStartup.Text.CodeTable

/-!
# Letters with marks

A letter with a mark can be one character or a letter and a mark after it, and
marks that do not touch each other can come in any order.  Of all ways to
write the same name one is chosen: the marks after a letter come in the order
of their classes, and a letter and a mark become one character where there is
such a character.  Only characters that may stand in a domain name as they are
count here.
-/

namespace WorkspaceStartup.Url.Domain

open Text

/-- The marks of each class other than zero. -/
def markClasses : List (Nat × List CodeRange) :=
  [(1, ["334-338 1CD4 1CE2-1CE8 20D2-20D3 20D8-20DA 20E5-20E6 20EA-20EB 10A39 16AF0-16AF4",
     "1BC9E 1D167-1D169"]),
  (6, ["16FF0-16FF1"]),
  (7, ["93C 9BC A3C ABC B3C C3C CBC 1037 1B34 1BE6 1C37 A9B3 110BA 11173 111CA 11236 112E9",
     "1133B-1133C 11446 114C3 115C0 116B7 1183A 11943 11D42 1E94A"]),
  (8, ["3099-309A"]),
  (9, ["94D 9CD A4D ACD B4D BCD C4D CCD D3B-D3C D4D DCA E3A EBA F84 1039-103A 1714-1715",
     "1734 17D2 1A60 1B44 1BAA-1BAB 1BF2-1BF3 2D7F A806 A82C A8C4 A953 A9C0 AAF6 ABED",
     "10A3F 11046 11070 1107F 110B9 11133-11134 111C0 11235 112EA 1134D 113CE-113D0",
     "11442 114C2 115BF 1163F 116B6 1172B 11839 1193D-1193E 119E0 11A34 11A47 11A99",
     "11C3F 11D44-11D45 11D97 11F41-11F42 1612F"]),
  (10, ["5B0"]),
  (11, ["5B1"]),
  (12, ["5B2"]),
  (13, ["5B3"]),
  (14, ["5B4"]),
  (15, ["5B5"]),
  (16, ["5B6"]),
  (17, ["5B7"]),
  (18, ["5B8 5C7"]),
  (19, ["5B9-5BA"]),
  (20, ["5BB"]),
  (21, ["5BC"]),
  (22, ["5BD"]),
  (23, ["5BF"]),
  (24, ["5C1"]),
  (25, ["5C2"]),
  (26, ["FB1E"]),
  (27, ["64B 8F0"]),
  (28, ["64C 8F1"]),
  (29, ["64D 8F2"]),
  (30, ["618 64E"]),
  (31, ["619 64F"]),
  (32, ["61A 650"]),
  (33, ["651"]),
  (34, ["652"]),
  (35, ["670"]),
  (36, ["711"]),
  (84, ["C55"]),
  (91, ["C56"]),
  (103, ["E38-E39"]),
  (107, ["E48-E4B"]),
  (118, ["EB8-EB9"]),
  (122, ["EC8-ECB"]),
  (129, ["F71"]),
  (130, ["F72 F7A-F7D F80"]),
  (132, ["F74"]),
  (202, ["321-322 327-328 1DD0"]),
  (214, ["1DCE"]),
  (216, ["31B F39 1D165-1D166 1D16E-1D172"]),
  (218, ["1DFA 302A"]),
  (220, ["316-319 31C-320 323-326 329-333 339-33C 347-349 34D-34E 353-356 359-35A 591 596",
     "59B 5A2-5A7 5AA 5C5 655-656 65C 65F 6E3 6EA 6ED 731 734 737-739 73B-73C 73E 742",
     "744 746 748 7F2 7FD 859-85B 899-89B 8CF-8D3 8E3 8E6 8E9 8ED-8EF 8F6 8F9-8FA 952",
     "F18-F19 F35 F37 FC6 108D 193B 1A18 1A7F 1AB5-1ABA 1ABD 1ABF-1AC0 1AC3-1AC4 1ACA",
     "1ADD 1AE6 1B6C 1CD5-1CD9 1CDC-1CDF 1CED 1DC2 1DCA 1DCF 1DF9 1DFD 1DFF 20E8",
     "20EC-20EF A92B-A92D AAB4 FE27-FE2D 101FD 102E0 10A0D 10A3A 10AE6 10EFA-10EFB",
     "10EFD-10EFF 10F46-10F47 10F4B 10F4D-10F50 10F83 10F85 1D17B-1D182 1D18A-1D18B",
     "1E4EE 1E5EF 1E8D0-1E8D6"]),
  (222, ["59A 5AD 1939 302D"]),
  (224, ["302E-302F"]),
  (226, ["1D16D"]),
  (228, ["5AE 18A9 1DF7-1DF8 302B"]),
  (230, ["300-314 33D-33F 342 346 34A-34C 350-352 357 35B 363-36F 483-487 592-595 597-599",
     "59C-5A1 5A8-5A9 5AB-5AC 5AF 5C4 610-617 653-654 657-65B 65D-65E 6D6-6DC 6DF-6E2",
     "6E4 6E7-6E8 6EB-6EC 730 732-733 735-736 73A 73D 73F-741 743 745 747 749-74A",
     "7EB-7F1 7F3 816-819 81B-823 825-827 829-82D 897-898 89C-89F 8CA-8CE 8D4-8E1",
     "8E4-8E5 8E7-8E8 8EA-8EC 8F3-8F5 8F7-8F8 8FB-8FF 951 953-954 9FE F82-F83 F86-F87",
     "135D-135F 17DD 193A 1A17 1A75-1A7C 1AB0-1AB4 1ABB-1ABC 1AC1-1AC2 1AC5-1AC9",
     "1ACB-1ADC 1AE0-1AE5 1AE7-1AEA 1B6B 1B6D-1B73 1CD0-1CD2 1CDA-1CDB 1CE0 1CF4",
     "1CF8-1CF9 1DC0-1DC1 1DC3-1DC9 1DCB-1DCC 1DD1-1DF5 1DFB 1DFE 20D0-20D1 20D4-20D7",
     "20DB-20DC 20E1 20E7 20E9 20F0 2CEF-2CF1 2DE0-2DFF A66F A674-A67D A69E-A69F",
     "A6F0-A6F1 A8E0-A8F1 AAB0 AAB2-AAB3 AAB7-AAB8 AABE-AABF AAC1 FE20-FE26 FE2E-FE2F",
     "10376-1037A 10A0F 10A38 10AE5 10D24-10D27 10D69-10D6D 10EAB-10EAC 10F48-10F4A",
     "10F4C 10F82 10F84 11100-11102 11366-1136C 11370-11374 1145E 16B30-16B36",
     "1D185-1D189 1D1AA-1D1AD 1D242-1D244 1E000-1E006 1E008-1E018 1E01B-1E021",
     "1E023-1E024 1E026-1E02A 1E08F 1E130-1E136 1E2AE 1E2EC-1E2EF 1E4EF 1E5EE 1E6E3",
     "1E6E6 1E6EE-1E6EF 1E6F5 1E944-1E949"]),
  (232, ["315 31A 358 1DF6 302C 1E4EC-1E4ED"]),
  (233, ["35C 35F 362 1DFC"]),
  (234, ["35D-35E 360-361 1AEB 1DCD"])].map fun (position, lines) => (position, readCodeRanges lines)

/-- The class of a mark; characters that start anew have class zero. -/
def markClass (character : Char) : Nat :=
  if character.toNat < 0x300 then 0
  else
    match markClasses.find? fun entry => isAmong entry.2 character with
    | some (position, _) => position
    | none => 0

/-- The mark that suppresses the vowel of a consonant, or joins two consonants. -/
def isVirama (character : Char) : Bool := markClass character == 9

/-- A character, and the one that it becomes with a mark. -/
structure Composite where
  base : Nat
  whole : Nat
  deriving DecidableEq, Repr

/-- The composite that a word of a table writes. -/
def Composite.read? (word : List Char) : Option Composite :=
  (cutFirst? ['>'] word).map fun (base, whole) =>
    ⟨readCode base, readCode whole⟩

/-- The composites with each mark. -/
def composites : List (Nat × List Composite) :=
  [(0x300, ["61>E0 65>E8 69>EC 6E>1F9 6F>F2 75>F9 77>1E81 79>1EF3 E2>1EA7 EA>1EC1 F4>1ED3",
     "FC>1DC 103>1EB1 113>1E15 14D>1E51 1A1>1EDD 1B0>1EEB 3B1>1F70 3B5>1F72 3B7>1F74",
     "3B9>1F76 3BF>1F78 3C5>1F7A 3C9>1F7C 3CA>1FD2 3CB>1FE2 435>450 438>45D 1F00>1F02",
     "1F01>1F03 1F10>1F12 1F11>1F13 1F20>1F22 1F21>1F23 1F30>1F32 1F31>1F33 1F40>1F42",
     "1F41>1F43 1F50>1F52 1F51>1F53 1F60>1F62 1F61>1F63"]),
  (0x301, ["61>E1 63>107 65>E9 67>1F5 69>ED 6B>1E31 6C>13A 6D>1E3F 6E>144 6F>F3 70>1E55",
     "72>155 73>15B 75>FA 77>1E83 79>FD 7A>17A E2>1EA5 E5>1FB E6>1FD E7>1E09 EA>1EBF",
     "EF>1E2F F4>1ED1 F5>1E4D F8>1FF FC>1D8 103>1EAF 113>1E17 14D>1E53 169>1E79",
     "1A1>1EDB 1B0>1EE9 3B1>3AC 3B5>3AD 3B7>3AE 3B9>3AF 3BF>3CC 3C5>3CD 3C9>3CE",
     "3CA>390 3CB>3B0 433>453 43A>45C 1F00>1F04 1F01>1F05 1F10>1F14 1F11>1F15",
     "1F20>1F24 1F21>1F25 1F30>1F34 1F31>1F35 1F40>1F44 1F41>1F45 1F50>1F54 1F51>1F55",
     "1F60>1F64 1F61>1F65"]),
  (0x302, ["61>E2 63>109 65>EA 67>11D 68>125 69>EE 6A>135 6F>F4 73>15D 75>FB 77>175 79>177",
     "7A>1E91 1EA1>1EAD 1EB9>1EC7 1ECD>1ED9"]),
  (0x303, ["61>E3 65>1EBD 69>129 6E>F1 6F>F5 75>169 76>1E7D 79>1EF9 E2>1EAB EA>1EC5 F4>1ED7",
     "103>1EB5 1A1>1EE1 1B0>1EEF"]),
  (0x304, ["61>101 65>113 67>1E21 69>12B 6F>14D 75>16B 79>233 E4>1DF E6>1E3 F5>22D F6>22B",
     "FC>1D6 1EB>1ED 227>1E1 22F>231 3B1>1FB1 3B9>1FD1 3C5>1FE1 438>4E3 443>4EF",
     "1E37>1E39 1E5B>1E5D"]),
  (0x306, ["61>103 65>115 67>11F 69>12D 6F>14F 75>16D 229>1E1D 3B1>1FB0 3B9>1FD0 3C5>1FE0",
     "430>4D1 435>4D7 436>4C2 438>439 443>45E 1EA1>1EB7"]),
  (0x307, ["61>227 62>1E03 63>10B 64>1E0B 65>117 66>1E1F 67>121 68>1E23 6D>1E41 6E>1E45",
     "6F>22F 70>1E57 72>1E59 73>1E61 74>1E6B 77>1E87 78>1E8B 79>1E8F 7A>17C 15B>1E65",
     "161>1E67 1E63>1E69 105D2>105C9 105DA>105E4"]),
  (0x308, ["61>E4 65>EB 68>1E27 69>EF 6F>F6 74>1E97 75>FC 77>1E85 78>1E8D 79>FF F5>1E4F",
     "16B>1E7B 3B9>3CA 3C5>3CB 430>4D3 435>451 436>4DD 437>4DF 438>4E5 43E>4E7 443>4F1",
     "447>4F5 44B>4F9 44D>4ED 456>457 4D9>4DB 4E9>4EB"]),
  (0x309, ["61>1EA3 65>1EBB 69>1EC9 6F>1ECF 75>1EE7 79>1EF7 E2>1EA9 EA>1EC3 F4>1ED5 103>1EB3",
     "1A1>1EDF 1B0>1EED"]),
  (0x30A, ["61>E5 75>16F 77>1E98 79>1E99"]),
  (0x30B, ["6F>151 75>171 443>4F3"]),
  (0x30C, ["61>1CE 63>10D 64>10F 65>11B 67>1E7 68>21F 69>1D0 6A>1F0 6B>1E9 6C>13E 6E>148",
     "6F>1D2 72>159 73>161 74>165 75>1D4 7A>17E FC>1DA 292>1EF"]),
  (0x30F, ["61>201 65>205 69>209 6F>20D 72>211 75>215 475>477"]),
  (0x311, ["61>203 65>207 69>20B 6F>20F 72>213 75>217"]),
  (0x313, ["3B1>1F00 3B5>1F10 3B7>1F20 3B9>1F30 3BF>1F40 3C1>1FE4 3C5>1F50 3C9>1F60"]),
  (0x314, ["3B1>1F01 3B5>1F11 3B7>1F21 3B9>1F31 3BF>1F41 3C1>1FE5 3C5>1F51 3C9>1F61"]),
  (0x31B, ["6F>1A1 75>1B0"]),
  (0x323, ["61>1EA1 62>1E05 64>1E0D 65>1EB9 68>1E25 69>1ECB 6B>1E33 6C>1E37 6D>1E43 6E>1E47",
     "6F>1ECD 72>1E5B 73>1E63 74>1E6D 75>1EE5 76>1E7F 77>1E89 79>1EF5 7A>1E93 1A1>1EE3",
     "1B0>1EF1"]),
  (0x324, ["75>1E73"]),
  (0x325, ["61>1E01"]),
  (0x326, ["73>219 74>21B"]),
  (0x327, ["63>E7 64>1E11 65>229 67>123 68>1E29 6B>137 6C>13C 6E>146 72>157 73>15F 74>163"]),
  (0x328, ["61>105 65>119 69>12F 6F>1EB 75>173"]),
  (0x32D, ["64>1E13 65>1E19 6C>1E3D 6E>1E4B 74>1E71 75>1E77"]),
  (0x32E, ["68>1E2B"]),
  (0x330, ["65>1E1B 69>1E2D 75>1E75"]),
  (0x331, ["62>1E07 64>1E0F 68>1E96 6B>1E35 6C>1E3B 6E>1E49 72>1E5F 74>1E6F 7A>1E95"]),
  (0x338, ["3C>226E 3D>2260 3E>226F 2190>219A 2192>219B 2194>21AE 21D0>21CD 21D2>21CF",
     "21D4>21CE 2203>2204 2208>2209 220B>220C 2223>2224 2225>2226 223C>2241 2243>2244",
     "2245>2247 2248>2249 224D>226D 2261>2262 2264>2270 2265>2271 2272>2274 2273>2275",
     "2276>2278 2277>2279 227A>2280 227B>2281 227C>22E0 227D>22E1 2282>2284 2283>2285",
     "2286>2288 2287>2289 2291>22E2 2292>22E3 22A2>22AC 22A8>22AD 22A9>22AE 22AB>22AF",
     "22B2>22EA 22B3>22EB 22B4>22EC 22B5>22ED"]),
  (0x342, ["3B1>1FB6 3B7>1FC6 3B9>1FD6 3C5>1FE6 3C9>1FF6 3CA>1FD7 3CB>1FE7 1F00>1F06",
     "1F01>1F07 1F20>1F26 1F21>1F27 1F30>1F36 1F31>1F37 1F50>1F56 1F51>1F57 1F60>1F66",
     "1F61>1F67"]),
  (0x653, ["627>622"]),
  (0x654, ["627>623 648>624 64A>626 6C1>6C2 6D2>6D3 6D5>6C0"]),
  (0x655, ["627>625"]),
  (0x93C, ["928>929 930>931 933>934"]),
  (0x9BE, ["9C7>9CB"]),
  (0x9D7, ["9C7>9CC"]),
  (0xB3E, ["B47>B4B"]),
  (0xB56, ["B47>B48"]),
  (0xB57, ["B47>B4C"]),
  (0xBBE, ["BC6>BCA BC7>BCB"]),
  (0xBD7, ["B92>B94 BC6>BCC"]),
  (0xC56, ["C46>C48"]),
  (0xCC2, ["CC6>CCA"]),
  (0xCD5, ["CBF>CC0 CC6>CC7 CCA>CCB"]),
  (0xCD6, ["CC6>CC8"]),
  (0xD3E, ["D46>D4A D47>D4B"]),
  (0xD57, ["D46>D4C"]),
  (0xDCA, ["DD9>DDA DDC>DDD"]),
  (0xDCF, ["DD9>DDC"]),
  (0xDDF, ["DD9>DDE"]),
  (0x102E, ["1025>1026"]),
  (0x1B35, ["1B05>1B06 1B07>1B08 1B09>1B0A 1B0B>1B0C 1B0D>1B0E 1B11>1B12 1B3A>1B3B 1B3C>1B3D",
     "1B3E>1B40 1B3F>1B41 1B42>1B43"]),
  (0x3099, ["3046>3094 304B>304C 304D>304E 304F>3050 3051>3052 3053>3054 3055>3056 3057>3058",
     "3059>305A 305B>305C 305D>305E 305F>3060 3061>3062 3064>3065 3066>3067 3068>3069",
     "306F>3070 3072>3073 3075>3076 3078>3079 307B>307C 309D>309E 30A6>30F4 30AB>30AC",
     "30AD>30AE 30AF>30B0 30B1>30B2 30B3>30B4 30B5>30B6 30B7>30B8 30B9>30BA 30BB>30BC",
     "30BD>30BE 30BF>30C0 30C1>30C2 30C4>30C5 30C6>30C7 30C8>30C9 30CF>30D0 30D2>30D3",
     "30D5>30D6 30D8>30D9 30DB>30DC 30EF>30F7 30F0>30F8 30F1>30F9 30F2>30FA 30FD>30FE"]),
  (0x309A, ["306F>3071 3072>3074 3075>3077 3078>307A 307B>307D 30CF>30D1 30D2>30D4 30D5>30D7",
     "30D8>30DA 30DB>30DD"]),
  (0x110BA, ["11099>1109A 1109B>1109C 110A5>110AB"]),
  (0x11127, ["11131>1112E 11132>1112F"]),
  (0x1133E, ["11347>1134B"]),
  (0x11357, ["11347>1134C"]),
  (0x113B8, ["113C2>113C7"]),
  (0x113BB, ["11384>11385"]),
  (0x113C2, ["1138B>1138E 113C2>113C5"]),
  (0x113C9, ["11382>11383 11390>11391 113C2>113C8"]),
  (0x114B0, ["114B9>114BC"]),
  (0x114BA, ["114B9>114BB"]),
  (0x114BD, ["114B9>114BE"]),
  (0x115AF, ["115B8>115BA 115B9>115BB"]),
  (0x11930, ["11935>11938"]),
  (0x1611E, ["1611E>16121"]),
  (0x1611F, ["1611E>16123 16121>16126 16122>16127 16129>16124"]),
  (0x16120, ["1611E>16125 16121>16128"]),
  (0x16129, ["1611E>16122"]),
  (0x16D67, ["16D63>16D69 16D67>16D68 16D69>16D6A"])].map fun (mark, lines) =>
    (mark, (tableWords lines).filterMap Composite.read?)

/-- The first of the syllables that are made of two or three letters. -/
def firstSyllable : Nat := 0xAC00

/-- The last of them. -/
def lastSyllable : Nat := 0xD7A3

/-- The two characters that a composite stands for. -/
def parts? (character : Char) : Option (Char × Char) :=
  let code := character.toNat
  if code < 0xC0 then none
  else if firstSyllable ≤ code ∧ code ≤ lastSyllable then
    let index := code - firstSyllable
    if index % 28 = 0 then
      some (Char.ofNat (0x1100 + index / 588),
        Char.ofNat (0x1161 + index / 28 % 21))
    else some (Char.ofNat (code - index % 28), Char.ofNat (0x11A7 + index % 28))
  else
    composites.findSome? fun (mark, entries) =>
      (entries.find? fun entry => entry.whole == code).map fun entry =>
        (Char.ofNat entry.base, Char.ofNat mark)

/-- The composite of two characters, if there is one. -/
def whole? (base mark : Char) : Option Char :=
  let base := base.toNat
  let mark := mark.toNat
  if mark < 0x300 then none
  else if 0x1100 ≤ base ∧ base ≤ 0x1112 ∧ 0x1161 ≤ mark ∧ mark ≤ 0x1175 then
    some (Char.ofNat
      (firstSyllable + ((base - 0x1100) * 21 + (mark - 0x1161)) * 28))
  else if firstSyllable ≤ base ∧ base ≤ lastSyllable ∧
      (base - firstSyllable) % 28 = 0 ∧ 0x11A8 ≤ mark ∧ mark ≤ 0x11C2 then
    some (Char.ofNat (base + (mark - 0x11A7)))
  else
    match composites.find? fun entry => entry.1 == mark with
    | some (_, entries) =>
        (entries.find? fun entry => entry.base == base).map fun entry =>
          Char.ofNat entry.whole
    | none => none

/-- The characters that a composite is made of, taken apart up to `depth` times. -/
def takeApart (depth : Nat) (character : Char) : List Char :=
  match depth with
  | 0 => [character]
  | depth + 1 =>
      match parts? character with
      | some (base, mark) => takeApart depth base ++ [mark]
      | none => [character]

/-- No composite has more marks than this. -/
def mostMarks : Nat := 3

/-- Puts a character before others whose marks are in order. -/
def placeInOrder (character : Char) : List Char → List Char
  | [] => [character]
  | next :: rest =>
      let position := markClass character
      if position = 0 ∨ markClass next = 0 ∨ position ≤ markClass next then
        character :: next :: rest
      else next :: placeInOrder character rest

/-- The characters with the marks after each letter in order. -/
def inOrder (characters : List Char) : List Char :=
  characters.foldr placeInOrder []

/--
The characters put together so far, latest first, the latest letter, and the
marks after it that did not become one with it, latest first.
-/
structure Composing where
  finished : List Char
  letter : Option Char
  marks : List Char

namespace Composing

/-- All characters that have been put together, latest first. -/
def characters (composing : Composing) : List Char :=
  composing.marks ++ composing.letter.toList ++ composing.finished

/-- Adds a character that becomes one with nothing. -/
def append (composing : Composing) (character : Char) : Composing :=
  if markClass character = 0 then
    ⟨composing.characters, some character, []⟩
  else { composing with marks := character :: composing.marks }

/-- A mark between the letter and the character keeps them apart. -/
def isBlocked (composing : Composing) (character : Char) : Bool :=
  match composing.marks with
  | [] => false
  | mark :: _ => markClass character ≤ markClass mark

/-- Adds the next character, to the letter if they become one. -/
def push (composing : Composing) (character : Char) : Composing :=
  match composing.letter with
  | some letter =>
      if composing.isBlocked character then composing.append character
      else
        match whole? letter character with
        | some whole => { composing with letter := some whole }
        | none => composing.append character
  | none => composing.append character

end Composing

/-- The one way to write the characters that is chosen. -/
def compose (characters : List Char) : List Char :=
  let parts := inOrder (characters.flatMap (takeApart mostMarks))
  (parts.foldl Composing.push ⟨[], none, []⟩).characters.reverse

end WorkspaceStartup.Url.Domain
