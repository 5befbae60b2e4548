import PortRoster.Text.CharSet

/-! # Tables of letters and words

The tables of those properties of characters that are about letters, their case, and names. -/

namespace PortRoster.Text.Table

/-- The characters of words beside letters and the numbers that are letters. -/
def otherAlphabetics : List Run :=
  [(0x345, 0x345), (0x363, 0x36F), (0x5B0, 0x5BD), (0x5BF, 0x5BF), (0x5C1, 0x5C2), (0x5C4, 0x5C5),
   (0x5C7, 0x5C7), (0x610, 0x61A), (0x64B, 0x657), (0x659, 0x65F), (0x670, 0x670), (0x6D6, 0x6DC),
   (0x6E1, 0x6E4), (0x6E7, 0x6E8), (0x6ED, 0x6ED), (0x711, 0x711), (0x730, 0x73F), (0x7A6, 0x7B0),
   (0x816, 0x817), (0x81B, 0x823), (0x825, 0x827), (0x829, 0x82C), (0x897, 0x897), (0x8D4, 0x8DF),
   (0x8E3, 0x8E9), (0x8F0, 0x903), (0x93A, 0x93B), (0x93E, 0x94C), (0x94E, 0x94F), (0x955, 0x957),
   (0x962, 0x963), (0x981, 0x983), (0x9BE, 0x9C4), (0x9C7, 0x9C8), (0x9CB, 0x9CC), (0x9D7, 0x9D7),
   (0x9E2, 0x9E3), (0xA01, 0xA03), (0xA3E, 0xA42), (0xA47, 0xA48), (0xA4B, 0xA4C), (0xA51, 0xA51),
   (0xA70, 0xA71), (0xA75, 0xA75), (0xA81, 0xA83), (0xABE, 0xAC5), (0xAC7, 0xAC9), (0xACB, 0xACC),
   (0xAE2, 0xAE3), (0xAFA, 0xAFC), (0xB01, 0xB03), (0xB3E, 0xB44), (0xB47, 0xB48), (0xB4B, 0xB4C),
   (0xB56, 0xB57), (0xB62, 0xB63), (0xB82, 0xB82), (0xBBE, 0xBC2), (0xBC6, 0xBC8), (0xBCA, 0xBCC),
   (0xBD7, 0xBD7), (0xC00, 0xC04), (0xC3E, 0xC44), (0xC46, 0xC48), (0xC4A, 0xC4C), (0xC55, 0xC56),
   (0xC62, 0xC63), (0xC81, 0xC83), (0xCBE, 0xCC4), (0xCC6, 0xCC8), (0xCCA, 0xCCC), (0xCD5, 0xCD6),
   (0xCE2, 0xCE3), (0xCF3, 0xCF3), (0xD00, 0xD03), (0xD3E, 0xD44), (0xD46, 0xD48), (0xD4A, 0xD4C),
   (0xD57, 0xD57), (0xD62, 0xD63), (0xD81, 0xD83), (0xDCF, 0xDD4), (0xDD6, 0xDD6), (0xDD8, 0xDDF),
   (0xDF2, 0xDF3), (0xE31, 0xE31), (0xE34, 0xE3A), (0xE4D, 0xE4D), (0xEB1, 0xEB1), (0xEB4, 0xEB9),
   (0xEBB, 0xEBC), (0xECD, 0xECD), (0xF71, 0xF83), (0xF8D, 0xF97), (0xF99, 0xFBC), (0x102B, 0x1036),
   (0x1038, 0x1038), (0x103B, 0x103E), (0x1056, 0x1059), (0x105E, 0x1060), (0x1062, 0x1064),
   (0x1067, 0x106D), (0x1071, 0x1074), (0x1082, 0x108D), (0x108F, 0x108F), (0x109A, 0x109D),
   (0x1712, 0x1713), (0x1732, 0x1733), (0x1752, 0x1753), (0x1772, 0x1773), (0x17B6, 0x17C8),
   (0x1885, 0x1886), (0x18A9, 0x18A9), (0x1920, 0x192B), (0x1930, 0x1938), (0x1A17, 0x1A1B),
   (0x1A55, 0x1A5E), (0x1A61, 0x1A74), (0x1ABF, 0x1AC0), (0x1ACC, 0x1ACE), (0x1B00, 0x1B04),
   (0x1B35, 0x1B43), (0x1B80, 0x1B82), (0x1BA1, 0x1BA9), (0x1BAC, 0x1BAD), (0x1BE7, 0x1BF1),
   (0x1C24, 0x1C36), (0x1DD3, 0x1DF4), (0x24B6, 0x24E9), (0x2DE0, 0x2DFF), (0xA674, 0xA67B),
   (0xA69E, 0xA69F), (0xA802, 0xA802), (0xA80B, 0xA80B), (0xA823, 0xA827), (0xA880, 0xA881),
   (0xA8B4, 0xA8C3), (0xA8C5, 0xA8C5), (0xA8FF, 0xA8FF), (0xA926, 0xA92A), (0xA947, 0xA952),
   (0xA980, 0xA983), (0xA9B4, 0xA9BF), (0xA9E5, 0xA9E5), (0xAA29, 0xAA36), (0xAA43, 0xAA43),
   (0xAA4C, 0xAA4D), (0xAA7B, 0xAA7D), (0xAAB0, 0xAAB0), (0xAAB2, 0xAAB4), (0xAAB7, 0xAAB8),
   (0xAABE, 0xAABE), (0xAAEB, 0xAAEF), (0xAAF5, 0xAAF5), (0xABE3, 0xABEA), (0xFB1E, 0xFB1E),
   (0x10376, 0x1037A), (0x10A01, 0x10A03), (0x10A05, 0x10A06), (0x10A0C, 0x10A0F),
   (0x10D24, 0x10D27), (0x10D69, 0x10D69), (0x10EAB, 0x10EAC), (0x10EFC, 0x10EFC),
   (0x11000, 0x11002), (0x11038, 0x11045), (0x11073, 0x11074), (0x11080, 0x11082),
   (0x110B0, 0x110B8), (0x110C2, 0x110C2), (0x11100, 0x11102), (0x11127, 0x11132),
   (0x11145, 0x11146), (0x11180, 0x11182), (0x111B3, 0x111BF), (0x111CE, 0x111CF),
   (0x1122C, 0x11234), (0x11237, 0x11237), (0x1123E, 0x1123E), (0x11241, 0x11241),
   (0x112DF, 0x112E8), (0x11300, 0x11303), (0x1133E, 0x11344), (0x11347, 0x11348),
   (0x1134B, 0x1134C), (0x11357, 0x11357), (0x11362, 0x11363), (0x113B8, 0x113C0),
   (0x113C2, 0x113C2), (0x113C5, 0x113C5), (0x113C7, 0x113CA), (0x113CC, 0x113CD),
   (0x11435, 0x11441), (0x11443, 0x11445), (0x114B0, 0x114C1), (0x115AF, 0x115B5),
   (0x115B8, 0x115BE), (0x115DC, 0x115DD), (0x11630, 0x1163E), (0x11640, 0x11640),
   (0x116AB, 0x116B5), (0x1171D, 0x1172A), (0x1182C, 0x11838), (0x11930, 0x11935),
   (0x11937, 0x11938), (0x1193B, 0x1193C), (0x11940, 0x11940), (0x11942, 0x11942),
   (0x119D1, 0x119D7), (0x119DA, 0x119DF), (0x119E4, 0x119E4), (0x11A01, 0x11A0A),
   (0x11A35, 0x11A39), (0x11A3B, 0x11A3E), (0x11A51, 0x11A5B), (0x11A8A, 0x11A97),
   (0x11C2F, 0x11C36), (0x11C38, 0x11C3E), (0x11C92, 0x11CA7), (0x11CA9, 0x11CB6),
   (0x11D31, 0x11D36), (0x11D3A, 0x11D3A), (0x11D3C, 0x11D3D), (0x11D3F, 0x11D41),
   (0x11D43, 0x11D43), (0x11D47, 0x11D47), (0x11D8A, 0x11D8E), (0x11D90, 0x11D91),
   (0x11D93, 0x11D96), (0x11EF3, 0x11EF6), (0x11F00, 0x11F01), (0x11F03, 0x11F03),
   (0x11F34, 0x11F3A), (0x11F3E, 0x11F40), (0x1611E, 0x1612E), (0x16F4F, 0x16F4F),
   (0x16F51, 0x16F87), (0x16F8F, 0x16F92), (0x16FF0, 0x16FF1), (0x1BC9E, 0x1BC9E),
   (0x1E000, 0x1E006), (0x1E008, 0x1E018), (0x1E01B, 0x1E021), (0x1E023, 0x1E024),
   (0x1E026, 0x1E02A), (0x1E08F, 0x1E08F), (0x1E947, 0x1E947), (0x1F130, 0x1F149),
   (0x1F150, 0x1F169), (0x1F170, 0x1F189)]

/-- The lowercase characters beside letters. -/
def otherLowercases : List Run :=
  [(0xAA, 0xAA), (0xBA, 0xBA), (0x2B0, 0x2B8), (0x2C0, 0x2C1), (0x2E0, 0x2E4), (0x345, 0x345),
   (0x37A, 0x37A), (0x10FC, 0x10FC), (0x1D2C, 0x1D6A), (0x1D78, 0x1D78), (0x1D9B, 0x1DBF),
   (0x2071, 0x2071), (0x207F, 0x207F), (0x2090, 0x209C), (0x2170, 0x217F), (0x24D0, 0x24E9),
   (0x2C7C, 0x2C7D), (0xA69C, 0xA69D), (0xA770, 0xA770), (0xA7F2, 0xA7F4), (0xA7F8, 0xA7F9),
   (0xAB5C, 0xAB5F), (0xAB69, 0xAB69), (0x10780, 0x10780), (0x10783, 0x10785), (0x10787, 0x107B0),
   (0x107B2, 0x107BA), (0x1E030, 0x1E06D)]

/-- The uppercase characters beside letters. -/
def otherUppercases : List Run :=
  [(0x2160, 0x216F), (0x24B6, 0x24CF), (0x1F130, 0x1F149), (0x1F150, 0x1F169), (0x1F170, 0x1F189)]

/-- The characters that have a lowercase form and stand in runs. -/
def lowerings : List Run :=
  [(0x41, 0x5A), (0xC0, 0xD6), (0xD8, 0xDE), (0x178, 0x179), (0x17B, 0x17B), (0x17D, 0x17D),
   (0x181, 0x182), (0x184, 0x184), (0x186, 0x187), (0x189, 0x18B), (0x18E, 0x191), (0x193, 0x194),
   (0x196, 0x198), (0x19C, 0x19D), (0x19F, 0x1A0), (0x1A2, 0x1A2), (0x1A4, 0x1A4), (0x1A6, 0x1A7),
   (0x1A9, 0x1A9), (0x1AC, 0x1AC), (0x1AE, 0x1AF), (0x1B1, 0x1B3), (0x1B5, 0x1B5), (0x1B7, 0x1B8),
   (0x1BC, 0x1BC), (0x1C4, 0x1C5), (0x1C7, 0x1C8), (0x1CA, 0x1CB), (0x1F1, 0x1F2), (0x1F4, 0x1F4),
   (0x1F6, 0x1F8), (0x23A, 0x23B), (0x23D, 0x23E), (0x241, 0x241), (0x243, 0x246), (0x370, 0x370),
   (0x372, 0x372), (0x376, 0x376), (0x37F, 0x37F), (0x386, 0x386), (0x388, 0x38A), (0x38C, 0x38C),
   (0x38E, 0x38F), (0x391, 0x3A1), (0x3A3, 0x3AB), (0x3CF, 0x3CF), (0x3F4, 0x3F4), (0x3F7, 0x3F7),
   (0x3F9, 0x3FA), (0x3FD, 0x42F), (0x4C0, 0x4C1), (0x531, 0x556), (0x10A0, 0x10C5),
   (0x10C7, 0x10C7), (0x10CD, 0x10CD), (0x13A0, 0x13F5), (0x1C89, 0x1C89), (0x1C90, 0x1CBA),
   (0x1CBD, 0x1CBF), (0x1F08, 0x1F0F), (0x1F18, 0x1F1D), (0x1F28, 0x1F2F), (0x1F38, 0x1F3F),
   (0x1F48, 0x1F4D), (0x1F68, 0x1F6F), (0x1F88, 0x1F8F), (0x1F98, 0x1F9F), (0x1FA8, 0x1FAF),
   (0x1FB8, 0x1FBC), (0x1FC8, 0x1FCC), (0x1FD8, 0x1FDB), (0x1FE8, 0x1FEC), (0x1FF8, 0x1FFC),
   (0x2126, 0x2126), (0x212A, 0x212B), (0x2132, 0x2132), (0x2160, 0x216F), (0x2183, 0x2183),
   (0x24B6, 0x24CF), (0x2C00, 0x2C2F), (0x2C60, 0x2C60), (0x2C62, 0x2C64), (0x2C6D, 0x2C70),
   (0x2C72, 0x2C72), (0x2C75, 0x2C75), (0x2C7E, 0x2C80), (0x2CEB, 0x2CEB), (0x2CED, 0x2CED),
   (0x2CF2, 0x2CF2), (0xA779, 0xA779), (0xA77B, 0xA77B), (0xA77D, 0xA77E), (0xA78B, 0xA78B),
   (0xA78D, 0xA78D), (0xA790, 0xA790), (0xA792, 0xA792), (0xA7AA, 0xA7AE), (0xA7B0, 0xA7B4),
   (0xA7C4, 0xA7C7), (0xA7C9, 0xA7C9), (0xA7CB, 0xA7CC), (0xA7D0, 0xA7D0), (0xA7F5, 0xA7F5),
   (0xFF21, 0xFF3A), (0x10400, 0x10427), (0x104B0, 0x104D3), (0x10570, 0x1057A), (0x1057C, 0x1058A),
   (0x1058C, 0x10592), (0x10594, 0x10595), (0x10C80, 0x10CB2), (0x10D50, 0x10D65),
   (0x118A0, 0x118BF), (0x16E40, 0x16E5F), (0x1E900, 0x1E921)]

/-- The characters that have a lowercase form and alternate with others: every second code point of
a run. -/
def alternatingLowerings : List Run :=
  [(0x100, 0x136), (0x139, 0x147), (0x14A, 0x176), (0x1CD, 0x1DB), (0x1DE, 0x1EE), (0x1FA, 0x232),
   (0x248, 0x24E), (0x3D8, 0x3EE), (0x460, 0x480), (0x48A, 0x4BE), (0x4C3, 0x4CD), (0x4D0, 0x52E),
   (0x1E00, 0x1E94), (0x1E9E, 0x1EFE), (0x1F59, 0x1F5F), (0x2C67, 0x2C6B), (0x2C82, 0x2CE2),
   (0xA640, 0xA66C), (0xA680, 0xA69A), (0xA722, 0xA72E), (0xA732, 0xA76E), (0xA780, 0xA786),
   (0xA796, 0xA7A8), (0xA7B6, 0xA7C2), (0xA7D6, 0xA7DC)]

/-- The characters that have an uppercase form and stand in runs. -/
def raisings : List Run :=
  [(0x61, 0x7A), (0xB5, 0xB5), (0xDF, 0xF6), (0xF8, 0xFF), (0x148, 0x149), (0x17A, 0x17A),
   (0x17C, 0x17C), (0x17E, 0x180), (0x183, 0x183), (0x185, 0x185), (0x188, 0x188), (0x18C, 0x18C),
   (0x192, 0x192), (0x195, 0x195), (0x199, 0x19B), (0x19E, 0x19E), (0x1A8, 0x1A8), (0x1AD, 0x1AD),
   (0x1B0, 0x1B0), (0x1B4, 0x1B4), (0x1B6, 0x1B6), (0x1B9, 0x1B9), (0x1BD, 0x1BD), (0x1BF, 0x1BF),
   (0x1C5, 0x1C6), (0x1C8, 0x1C9), (0x1CB, 0x1CC), (0x1DC, 0x1DD), (0x1EF, 0x1F0), (0x1F2, 0x1F3),
   (0x1F5, 0x1F5), (0x23C, 0x23C), (0x23F, 0x240), (0x242, 0x242), (0x24F, 0x254), (0x256, 0x257),
   (0x259, 0x259), (0x25B, 0x25C), (0x260, 0x261), (0x263, 0x266), (0x268, 0x26C), (0x26F, 0x26F),
   (0x271, 0x272), (0x275, 0x275), (0x27D, 0x27D), (0x280, 0x280), (0x282, 0x283), (0x287, 0x28C),
   (0x292, 0x292), (0x29D, 0x29E), (0x345, 0x345), (0x371, 0x371), (0x373, 0x373), (0x377, 0x377),
   (0x37B, 0x37D), (0x390, 0x390), (0x3AC, 0x3CE), (0x3D0, 0x3D1), (0x3D5, 0x3D7), (0x3EF, 0x3F3),
   (0x3F5, 0x3F5), (0x3F8, 0x3F8), (0x3FB, 0x3FB), (0x430, 0x45F), (0x4CE, 0x4CF), (0x561, 0x587),
   (0x10D0, 0x10FA), (0x10FD, 0x10FF), (0x13F8, 0x13FD), (0x1C80, 0x1C88), (0x1C8A, 0x1C8A),
   (0x1D79, 0x1D79), (0x1D7D, 0x1D7D), (0x1D8E, 0x1D8E), (0x1E95, 0x1E9B), (0x1EFF, 0x1F07),
   (0x1F10, 0x1F15), (0x1F20, 0x1F27), (0x1F30, 0x1F37), (0x1F40, 0x1F45), (0x1F50, 0x1F57),
   (0x1F60, 0x1F67), (0x1F70, 0x1F7D), (0x1F80, 0x1FB4), (0x1FB6, 0x1FB7), (0x1FBC, 0x1FBC),
   (0x1FBE, 0x1FBE), (0x1FC2, 0x1FC4), (0x1FC6, 0x1FC7), (0x1FCC, 0x1FCC), (0x1FD0, 0x1FD3),
   (0x1FD6, 0x1FD7), (0x1FE0, 0x1FE7), (0x1FF2, 0x1FF4), (0x1FF6, 0x1FF7), (0x1FFC, 0x1FFC),
   (0x214E, 0x214E), (0x2170, 0x217F), (0x2184, 0x2184), (0x24D0, 0x24E9), (0x2C30, 0x2C5F),
   (0x2C61, 0x2C61), (0x2C65, 0x2C66), (0x2C73, 0x2C73), (0x2C76, 0x2C76), (0x2CEC, 0x2CEC),
   (0x2CEE, 0x2CEE), (0x2CF3, 0x2CF3), (0x2D00, 0x2D25), (0x2D27, 0x2D27), (0x2D2D, 0x2D2D),
   (0xA77A, 0xA77A), (0xA77C, 0xA77C), (0xA78C, 0xA78C), (0xA791, 0xA791), (0xA793, 0xA794),
   (0xA7C8, 0xA7C8), (0xA7CA, 0xA7CA), (0xA7CD, 0xA7CD), (0xA7D1, 0xA7D1), (0xA7F6, 0xA7F6),
   (0xAB53, 0xAB53), (0xAB70, 0xABBF), (0xFB00, 0xFB06), (0xFB13, 0xFB17), (0xFF41, 0xFF5A),
   (0x10428, 0x1044F), (0x104D8, 0x104FB), (0x10597, 0x105A1), (0x105A3, 0x105B1),
   (0x105B3, 0x105B9), (0x105BB, 0x105BC), (0x10CC0, 0x10CF2), (0x10D70, 0x10D85),
   (0x118C0, 0x118DF), (0x16E60, 0x16E7F), (0x1E922, 0x1E943)]

/-- The characters that have an uppercase form and alternate with others: every second code point of
a run. -/
def alternatingRaisings : List Run :=
  [(0x101, 0x137), (0x13A, 0x146), (0x14B, 0x177), (0x1A1, 0x1A5), (0x1CE, 0x1DA), (0x1DF, 0x1ED),
   (0x1F9, 0x21F), (0x223, 0x233), (0x247, 0x24D), (0x3D9, 0x3ED), (0x461, 0x481), (0x48B, 0x4BF),
   (0x4C2, 0x4CC), (0x4D1, 0x52F), (0x1E01, 0x1E93), (0x1EA1, 0x1EFD), (0x2C68, 0x2C6C),
   (0x2C81, 0x2CE3), (0xA641, 0xA66D), (0xA681, 0xA69B), (0xA723, 0xA72F), (0xA733, 0xA76F),
   (0xA77F, 0xA787), (0xA797, 0xA7A9), (0xA7B5, 0xA7C3), (0xA7D7, 0xA7DB)]

/-- The characters that have a titlecase form and no uppercase one. -/
def titledAlone : List Run :=
  [(0x1C4, 0x1C4), (0x1C7, 0x1C7), (0x1CA, 0x1CA), (0x1F1, 0x1F1)]

/-- The characters that have an uppercase form and no titlecase one. -/
def raisedAlone : List Run :=
  [(0x1C5, 0x1C5), (0x1C8, 0x1C8), (0x1CB, 0x1CB), (0x1F2, 0x1F2), (0x10D0, 0x10FA),
   (0x10FD, 0x10FF), (0x1F88, 0x1F8F), (0x1F98, 0x1F9F), (0x1FA8, 0x1FAF), (0x1FBC, 0x1FBC),
   (0x1FCC, 0x1FCC), (0x1FFC, 0x1FFC)]

/-- The characters that have a form for comparison and no lowercase one. -/
def foldedAlone : List Run :=
  [(0xB5, 0xB5), (0xDF, 0xDF), (0x149, 0x149), (0x17F, 0x17F), (0x345, 0x345), (0x3C2, 0x3C2),
   (0x3D0, 0x3D1), (0x3D5, 0x3D6), (0x3F0, 0x3F1), (0x3F5, 0x3F5), (0x587, 0x587), (0x13F8, 0x13FD),
   (0x1C80, 0x1C88), (0x1E9A, 0x1E9B), (0x1F80, 0x1F87), (0x1F90, 0x1F97), (0x1FA0, 0x1FA7),
   (0x1FB2, 0x1FB4), (0x1FB7, 0x1FB7), (0x1FC2, 0x1FC4), (0x1FC7, 0x1FC7), (0x1FF2, 0x1FF4),
   (0x1FF7, 0x1FF7), (0xAB70, 0xABBF), (0xFB00, 0xFB06), (0xFB13, 0xFB17)]

/-- The characters that have a lowercase form and none for comparison. -/
def loweredAlone : List Run :=
  [(0x13A0, 0x13F5)]

/-- The characters whose dot gives way to a mark above. -/
def softDots : List Run :=
  [(0x69, 0x6A), (0x12F, 0x12F), (0x249, 0x249), (0x268, 0x268), (0x29D, 0x29D), (0x2B2, 0x2B2),
   (0x3F3, 0x3F3), (0x456, 0x456), (0x458, 0x458), (0x1D62, 0x1D62), (0x1D96, 0x1D96),
   (0x1DA4, 0x1DA4), (0x1DA8, 0x1DA8), (0x1E2D, 0x1E2D), (0x1ECB, 0x1ECB), (0x2071, 0x2071),
   (0x2148, 0x2149), (0x2C7C, 0x2C7C), (0x1D422, 0x1D423), (0x1D456, 0x1D457), (0x1D48A, 0x1D48B),
   (0x1D4BE, 0x1D4BF), (0x1D4F2, 0x1D4F3), (0x1D526, 0x1D527), (0x1D55A, 0x1D55B),
   (0x1D58E, 0x1D58F), (0x1D5C2, 0x1D5C3), (0x1D5F6, 0x1D5F7), (0x1D62A, 0x1D62B),
   (0x1D65E, 0x1D65F), (0x1D692, 0x1D693), (0x1DF1A, 0x1DF1A), (0x1E04C, 0x1E04D),
   (0x1E068, 0x1E068)]

/-- The characters that may begin a name beside letters. -/
def otherIdStarts : List Run :=
  [(0x1885, 0x1886), (0x2118, 0x2118), (0x212E, 0x212E), (0x309B, 0x309C)]

/-- The characters that may continue a name beside letters, marks and digits. -/
def otherIdContinues : List Run :=
  [(0xB7, 0xB7), (0x387, 0x387), (0x1369, 0x1371), (0x19DA, 0x19DA), (0x200C, 0x200D),
   (0x30FB, 0x30FB), (0xFF65, 0xFF65)]

/-- The characters that may begin a name, but not after a change to a compatible form. -/
def unstableStarts : List Run :=
  [(0x37A, 0x37A), (0xE33, 0xE33), (0xEB3, 0xEB3), (0x309B, 0x309C), (0xFC5E, 0xFC63),
   (0xFDFA, 0xFDFB), (0xFE70, 0xFE70), (0xFE72, 0xFE72), (0xFE74, 0xFE74), (0xFE76, 0xFE76),
   (0xFE78, 0xFE78), (0xFE7A, 0xFE7A), (0xFE7C, 0xFE7C), (0xFE7E, 0xFE7E), (0xFF9E, 0xFF9F)]

/-- The characters that may continue a name, but not after a change to a compatible form. -/
def unstableContinues : List Run :=
  [(0x37A, 0x37A), (0x309B, 0x309C), (0xFC5E, 0xFC63), (0xFDFA, 0xFDFB), (0xFE70, 0xFE70),
   (0xFE72, 0xFE72), (0xFE74, 0xFE74), (0xFE76, 0xFE76), (0xFE78, 0xFE78), (0xFE7A, 0xFE7A),
   (0xFE7C, 0xFE7C), (0xFE7E, 0xFE7E)]

/-- The signs of mathematics that may begin a name. -/
def compatibleMathStarts : List Run :=
  [(0x2202, 0x2202), (0x2207, 0x2207), (0x221E, 0x221E), (0x1D6C1, 0x1D6C1), (0x1D6DB, 0x1D6DB),
   (0x1D6FB, 0x1D6FB), (0x1D715, 0x1D715), (0x1D735, 0x1D735), (0x1D74F, 0x1D74F),
   (0x1D76F, 0x1D76F), (0x1D789, 0x1D789), (0x1D7A9, 0x1D7A9), (0x1D7C3, 0x1D7C3)]

/-- The signs of mathematics that may only continue a name. -/
def compatibleMathContinues : List Run :=
  [(0xB2, 0xB3), (0xB9, 0xB9), (0x2070, 0x2070), (0x2074, 0x207E), (0x2080, 0x208E)]

/-- The signs within words that do not matter for case. -/
def caseIgnorableSigns : List Run :=
  [(0x27, 0x27), (0x2E, 0x2E), (0x3A, 0x3A), (0xB7, 0xB7), (0x387, 0x387), (0x55F, 0x55F),
   (0x5F4, 0x5F4), (0x2018, 0x2019), (0x2024, 0x2024), (0x2027, 0x2027), (0xFE13, 0xFE13),
   (0xFE52, 0xFE52), (0xFE55, 0xFE55), (0xFF07, 0xFF07), (0xFF0E, 0xFF0E), (0xFF1A, 0xFF1A)]

end PortRoster.Text.Table
