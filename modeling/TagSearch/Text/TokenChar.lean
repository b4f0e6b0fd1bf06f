import TagSearch.Text.CellWidth

/-!
# Characters of tokens

How a text is cut into tokens: which characters separate tokens, which ones belong to a token, and
how these are written in it. Letters and digits of ASCII belong to tokens, in lower case, and so do
letters, digits and unassigned characters beyond it. A letter of ASCII with one accent loses it, be
it part of the character or a combining mark of its own.

* `tokenRole` is the role of a character.
-/

namespace TagSearch.Text

/-- The characters beyond ASCII that separate tokens, as ranges of their numbers. -/
def separatorRanges : List (Nat × Nat) :=
  [(0x80, 0xA9), (0xAB, 0xB1), (0xB4, 0xB4), (0xB6, 0xB8), (0xBB, 0xBB), (0xBF, 0xBF), (0xD7, 0xD7),
   (0xF7, 0xF7), (0x2C2, 0x2C5), (0x2D2, 0x2DF), (0x2E5, 0x2EB), (0x2ED, 0x2ED), (0x2EF, 0x2FF),
   (0x305, 0x305), (0x30D, 0x30E), (0x310, 0x310), (0x312, 0x31A), (0x31C, 0x322), (0x329, 0x32C),
   (0x32F, 0x32F), (0x332, 0x36F), (0x375, 0x375), (0x37E, 0x37E), (0x384, 0x385), (0x387, 0x387),
   (0x3F6, 0x3F6), (0x482, 0x489), (0x55A, 0x55F), (0x589, 0x58A), (0x58F, 0x58F), (0x591, 0x5C7),
   (0x5F3, 0x5F4), (0x600, 0x604), (0x606, 0x61B), (0x61E, 0x61F), (0x64B, 0x65F), (0x66A, 0x66D),
   (0x670, 0x670), (0x6D4, 0x6D4), (0x6D6, 0x6E4), (0x6E7, 0x6ED), (0x6FD, 0x6FE), (0x700, 0x70D),
   (0x70F, 0x70F), (0x711, 0x711), (0x730, 0x74A), (0x7A6, 0x7B0), (0x7EB, 0x7F3), (0x7F6, 0x7F9),
   (0x816, 0x819), (0x81B, 0x823), (0x825, 0x827), (0x829, 0x82D), (0x830, 0x83E), (0x859, 0x85B),
   (0x85E, 0x85E), (0x8E4, 0x8FE), (0x900, 0x903), (0x93A, 0x93C), (0x93E, 0x94F), (0x951, 0x957),
   (0x962, 0x965), (0x970, 0x970), (0x981, 0x983), (0x9BC, 0x9BC), (0x9BE, 0x9C4), (0x9C7, 0x9C8),
   (0x9CB, 0x9CD), (0x9D7, 0x9D7), (0x9E2, 0x9E3), (0x9F2, 0x9F3), (0x9FA, 0x9FB), (0xA01, 0xA03),
   (0xA3C, 0xA3C), (0xA3E, 0xA42), (0xA47, 0xA48), (0xA4B, 0xA4D), (0xA51, 0xA51), (0xA70, 0xA71),
   (0xA75, 0xA75), (0xA81, 0xA83), (0xABC, 0xABC), (0xABE, 0xAC5), (0xAC7, 0xAC9), (0xACB, 0xACD),
   (0xAE2, 0xAE3), (0xAF0, 0xAF1), (0xB01, 0xB03), (0xB3C, 0xB3C), (0xB3E, 0xB44), (0xB47, 0xB48),
   (0xB4B, 0xB4D), (0xB56, 0xB57), (0xB62, 0xB63), (0xB70, 0xB70), (0xB82, 0xB82), (0xBBE, 0xBC2),
   (0xBC6, 0xBC8), (0xBCA, 0xBCD), (0xBD7, 0xBD7), (0xBF3, 0xBFA), (0xC01, 0xC03), (0xC3E, 0xC44),
   (0xC46, 0xC48), (0xC4A, 0xC4D), (0xC55, 0xC56), (0xC62, 0xC63), (0xC7F, 0xC7F), (0xC82, 0xC83),
   (0xCBC, 0xCBC), (0xCBE, 0xCC4), (0xCC6, 0xCC8), (0xCCA, 0xCCD), (0xCD5, 0xCD6), (0xCE2, 0xCE3),
   (0xD02, 0xD03), (0xD3E, 0xD44), (0xD46, 0xD48), (0xD4A, 0xD4D), (0xD57, 0xD57), (0xD62, 0xD63),
   (0xD79, 0xD79), (0xD82, 0xD83), (0xDCA, 0xDCA), (0xDCF, 0xDD4), (0xDD6, 0xDD6), (0xDD8, 0xDDF),
   (0xDF2, 0xDF4), (0xE31, 0xE31), (0xE34, 0xE3A), (0xE3F, 0xE3F), (0xE47, 0xE4F), (0xE5A, 0xE5B),
   (0xEB1, 0xEB1), (0xEB4, 0xEB9), (0xEBB, 0xEBC), (0xEC8, 0xECD), (0xF01, 0xF1F), (0xF34, 0xF3F),
   (0xF71, 0xF87), (0xF8D, 0xF97), (0xF99, 0xFBC), (0xFBE, 0xFCC), (0xFCE, 0xFDA), (0x102B, 0x103E),
   (0x104A, 0x104F), (0x1056, 0x1059), (0x105E, 0x1060), (0x1062, 0x1064), (0x1067, 0x106D),
   (0x1071, 0x1074), (0x1082, 0x108D), (0x108F, 0x108F), (0x109A, 0x109F), (0x10FB, 0x10FB),
   (0x135D, 0x1368), (0x1390, 0x1399), (0x1400, 0x1400), (0x166D, 0x166E), (0x1680, 0x1680),
   (0x169B, 0x169C), (0x16EB, 0x16ED), (0x1712, 0x1714), (0x1732, 0x1736), (0x1752, 0x1753),
   (0x1772, 0x1773), (0x17B4, 0x17D6), (0x17D8, 0x17DB), (0x17DD, 0x17DD), (0x1800, 0x180E),
   (0x18A9, 0x18A9), (0x1920, 0x192B), (0x1930, 0x193B), (0x1940, 0x1940), (0x1944, 0x1945),
   (0x19B0, 0x19C0), (0x19C8, 0x19C9), (0x19DE, 0x19FF), (0x1A17, 0x1A1B), (0x1A1E, 0x1A1F),
   (0x1A55, 0x1A5E), (0x1A60, 0x1A7C), (0x1A7F, 0x1A7F), (0x1AA0, 0x1AA6), (0x1AA8, 0x1AAD),
   (0x1B00, 0x1B04), (0x1B34, 0x1B44), (0x1B5A, 0x1B7C), (0x1B80, 0x1B82), (0x1BA1, 0x1BAD),
   (0x1BE6, 0x1BF3), (0x1BFC, 0x1BFF), (0x1C24, 0x1C37), (0x1C3B, 0x1C3F), (0x1C7E, 0x1C7F),
   (0x1CC0, 0x1CC7), (0x1CD0, 0x1CE8), (0x1CED, 0x1CED), (0x1CF2, 0x1CF4), (0x1DC0, 0x1DE6),
   (0x1DFC, 0x1DFF), (0x1FBD, 0x1FBD), (0x1FBF, 0x1FC1), (0x1FCD, 0x1FCF), (0x1FDD, 0x1FDF),
   (0x1FED, 0x1FEF), (0x1FFD, 0x1FFE), (0x2000, 0x2064), (0x206A, 0x206F), (0x207A, 0x207E),
   (0x208A, 0x208E), (0x20A0, 0x20B9), (0x20D0, 0x20F0), (0x2100, 0x2101), (0x2103, 0x2106),
   (0x2108, 0x2109), (0x2114, 0x2114), (0x2116, 0x2118), (0x211E, 0x2123), (0x2125, 0x2125),
   (0x2127, 0x2127), (0x2129, 0x2129), (0x212E, 0x212E), (0x213A, 0x213B), (0x2140, 0x2144),
   (0x214A, 0x214D), (0x214F, 0x214F), (0x2190, 0x23F3), (0x2400, 0x2426), (0x2440, 0x244A),
   (0x249C, 0x24E9), (0x2500, 0x26FF), (0x2701, 0x2775), (0x2794, 0x2B4C), (0x2B50, 0x2B59),
   (0x2CE5, 0x2CEA), (0x2CEF, 0x2CF1), (0x2CF9, 0x2CFC), (0x2CFE, 0x2CFF), (0x2D70, 0x2D70),
   (0x2D7F, 0x2D7F), (0x2DE0, 0x2E2E), (0x2E30, 0x2E3B), (0x2E80, 0x2E99), (0x2E9B, 0x2EF3),
   (0x2F00, 0x2FD5), (0x2FF0, 0x2FFB), (0x3000, 0x3004), (0x3008, 0x3020), (0x302A, 0x3030),
   (0x3036, 0x3037), (0x303D, 0x303F), (0x3099, 0x309C), (0x30A0, 0x30A0), (0x30FB, 0x30FB),
   (0x3190, 0x3191), (0x3196, 0x319F), (0x31C0, 0x31E3), (0x3200, 0x321E), (0x322A, 0x3247),
   (0x3250, 0x3250), (0x3260, 0x327F), (0x328A, 0x32B0), (0x32C0, 0x32FE), (0x3300, 0x33FF),
   (0x4DC0, 0x4DFF), (0xA490, 0xA4C6), (0xA4FE, 0xA4FF), (0xA60D, 0xA60F), (0xA66F, 0xA67E),
   (0xA69F, 0xA69F), (0xA6F0, 0xA6F7), (0xA700, 0xA716), (0xA720, 0xA721), (0xA789, 0xA78A),
   (0xA802, 0xA802), (0xA806, 0xA806), (0xA80B, 0xA80B), (0xA823, 0xA82B), (0xA836, 0xA839),
   (0xA874, 0xA877), (0xA880, 0xA881), (0xA8B4, 0xA8C4), (0xA8CE, 0xA8CF), (0xA8E0, 0xA8F1),
   (0xA8F8, 0xA8FA), (0xA926, 0xA92F), (0xA947, 0xA953), (0xA95F, 0xA95F), (0xA980, 0xA983),
   (0xA9B3, 0xA9CD), (0xA9DE, 0xA9DF), (0xAA29, 0xAA36), (0xAA43, 0xAA43), (0xAA4C, 0xAA4D),
   (0xAA5C, 0xAA5F), (0xAA77, 0xAA79), (0xAA7B, 0xAA7B), (0xAAB0, 0xAAB0), (0xAAB2, 0xAAB4),
   (0xAAB7, 0xAAB8), (0xAABE, 0xAABF), (0xAAC1, 0xAAC1), (0xAADE, 0xAADF), (0xAAEB, 0xAAF1),
   (0xAAF5, 0xAAF6), (0xABE3, 0xABED), (0xFB1E, 0xFB1E), (0xFB29, 0xFB29), (0xFBB2, 0xFBC1),
   (0xFD3E, 0xFD3F), (0xFDFC, 0xFDFD), (0xFE00, 0xFE19), (0xFE20, 0xFE26), (0xFE30, 0xFE52),
   (0xFE54, 0xFE66), (0xFE68, 0xFE6B), (0xFEFF, 0xFEFF), (0xFF01, 0xFF0F), (0xFF1A, 0xFF20),
   (0xFF3B, 0xFF40), (0xFF5B, 0xFF65), (0xFFE0, 0xFFE6), (0xFFE8, 0xFFEE), (0xFFF9, 0xFFFF),
   (0x10100, 0x10102), (0x10137, 0x1013F), (0x10179, 0x10189), (0x10190, 0x1019B),
   (0x101D0, 0x101FD), (0x1039F, 0x1039F), (0x103D0, 0x103D0), (0x10857, 0x10857),
   (0x1091F, 0x1091F), (0x1093F, 0x1093F), (0x10A01, 0x10A03), (0x10A05, 0x10A06),
   (0x10A0C, 0x10A0F), (0x10A38, 0x10A3A), (0x10A3F, 0x10A3F), (0x10A50, 0x10A58),
   (0x10A7F, 0x10A7F), (0x10B39, 0x10B3F), (0x11000, 0x11002), (0x11038, 0x1104D),
   (0x11080, 0x11082), (0x110B0, 0x110C1), (0x11100, 0x11102), (0x11127, 0x11134),
   (0x11140, 0x11143), (0x11180, 0x11182), (0x111B3, 0x111C0), (0x111C5, 0x111C8),
   (0x116AB, 0x116B7), (0x12470, 0x12473), (0x16F51, 0x16F7E), (0x16F8F, 0x16F92),
   (0x1D000, 0x1D0F5), (0x1D100, 0x1D126), (0x1D129, 0x1D1DD), (0x1D200, 0x1D245),
   (0x1D300, 0x1D356), (0x1D6C1, 0x1D6C1), (0x1D6DB, 0x1D6DB), (0x1D6FB, 0x1D6FB),
   (0x1D715, 0x1D715), (0x1D735, 0x1D735), (0x1D74F, 0x1D74F), (0x1D76F, 0x1D76F),
   (0x1D789, 0x1D789), (0x1D7A9, 0x1D7A9), (0x1D7C3, 0x1D7C3), (0x1EEF0, 0x1EEF1),
   (0x1F000, 0x1F02B), (0x1F030, 0x1F093), (0x1F0A0, 0x1F0AE), (0x1F0B1, 0x1F0BE),
   (0x1F0C1, 0x1F0CF), (0x1F0D1, 0x1F0DF), (0x1F110, 0x1F12E), (0x1F130, 0x1F16B),
   (0x1F170, 0x1F19A), (0x1F1E6, 0x1F202), (0x1F210, 0x1F23A), (0x1F240, 0x1F248),
   (0x1F250, 0x1F251), (0x1F300, 0x1F320), (0x1F330, 0x1F335), (0x1F337, 0x1F37C),
   (0x1F380, 0x1F393), (0x1F3A0, 0x1F3C4), (0x1F3C6, 0x1F3CA), (0x1F3E0, 0x1F3F0),
   (0x1F400, 0x1F43E), (0x1F440, 0x1F440), (0x1F442, 0x1F4F7), (0x1F4F9, 0x1F4FC),
   (0x1F500, 0x1F53D), (0x1F540, 0x1F543), (0x1F550, 0x1F567), (0x1F5FB, 0x1F640),
   (0x1F645, 0x1F64F), (0x1F680, 0x1F6C5), (0x1F700, 0x1F773), (0xE0001, 0xE0001),
   (0xE0020, 0xE007F), (0xE0100, 0xE01EF)]

/-- The combining marks that are dropped inside of tokens, as ranges of their numbers. -/
def markRanges : List (Nat × Nat) :=
  [(0x300, 0x304), (0x306, 0x30C), (0x30F, 0x30F), (0x311, 0x311), (0x31B, 0x31B), (0x323, 0x328),
   (0x32D, 0x32E), (0x330, 0x331)]

/-- The letters of ASCII, each with the characters that are written as it. -/
def accentedLetters : List (Char × String) :=
  [('a', "ÀÁÂÃÄÅàáâãäåĀāĂăĄąǍǎȀȁȂȃȦȧḀḁẠạẢả\u212b"), ('b', "ḂḃḄḅḆḇ"), ('c', "ÇçĆćĈĉĊċČč"),
   ('d', "ĎďḊḋḌḍḎḏḐḑḒḓ"), ('e', "ÈÉÊËèéêëĒēĔĕĖėĘęĚěȄȅȆȇȨȩḘḙḚḛẸẹẺẻẼẽ"), ('f', "Ḟḟ"),
   ('g', "ĜĝĞğĠġĢģǦǧǴǵḠḡ"), ('h', "ĤĥȞȟḢḣḤḥḦḧḨḩḪḫẖ"), ('i', "ÌÍÎÏìíîïĨĩĪīĬĭĮįİǏǐȈȉȊȋḬḭỈỉỊị"),
   ('j', "Ĵĵǰ"), ('k', "ĶķǨǩḰḱḲḳḴḵ\u212a"), ('l', "ĹĺĻļĽľḶḷḺḻḼḽ"), ('m', "ḾḿṀṁṂṃ"),
   ('n', "ÑñŃńŅņŇňǸǹṄṅṆṇṈṉṊṋ"), ('o', "ÒÓÔÕÖòóôõöŌōŎŏŐőƠơǑǒǪǫȌȍȎȏȮȯỌọỎỏ"), ('p', "ṔṕṖṗ"),
   ('r', "ŔŕŖŗŘřȐȑȒȓṘṙṚṛṞṟ"), ('s', "ŚśŜŝŞşŠšſȘșṠṡṢṣẛ"), ('t', "ŢţŤťȚțṪṫṬṭṮṯṰṱẗ"),
   ('u', "ÙÚÛÜùúûüŨũŪūŬŭŮůŰűŲųƯưǓǔȔȕȖȗṲṳṴṵṶṷỤụỦủ"), ('v', "ṼṽṾṿ"), ('w', "ŴŵẀẁẂẃẄẅẆẇẈẉẘ"),
   ('x', "ẊẋẌẍ"), ('y', "ÝýÿŶŷŸȲȳẎẏẙỲỳỴỵỶỷỸỹ"), ('z', "ŹźŻżŽžẐẑẒẓẔẕ")]

/-- A character beyond ASCII as it is written in a token. Letters of other scripts are not changed:
tags are searched by tokens of ASCII. -/
def unaccented (c : Char) : Char :=
  match accentedLetters.find? fun (_, accented) => accented.toList.contains c with
  | some (letter, _) => letter
  | none => c

/-- What a character is to tokens. -/
inductive TokenRole where
  /-- The character ends a token. -/
  | separator
  /-- The character leaves no trace in a token, and starts none. -/
  | mark
  /-- The character belongs to a token, in which it is written as a letter or digit. -/
  | letter (written : Char)
  deriving DecidableEq, Repr

/-- The role of a character. -/
def tokenRole (c : Char) : TokenRole :=
  if c.toNat < 128 then if c.isAlphanum then .letter c.toLower else .separator
  else if inRanges separatorRanges c.toNat then .separator
  else if inRanges markRanges c.toNat then .mark
  else .letter (unaccented c)

end TagSearch.Text
