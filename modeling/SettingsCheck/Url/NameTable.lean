import SettingsCheck.Text.Letters

/-!
Characters of internationalised host names: which are refused, which are dropped, and which are
written in another form. Letters that have their other form at a fixed distance stand as one run.
-/

namespace SettingsCheck.Url

/-- Characters that no host name may hold. -/
def refusedRuns : List (Nat × Nat × Nat) := [
  (0x80, 0x9f, 1), (0x378, 0x379, 1), (0x380, 0x383, 1), (0x38b, 0x38b, 1), (0x38d, 0x38d, 1),
  (0x3a2, 0x3a2, 1), (0x4c0, 0x4c0, 1), (0x530, 0x530, 1), (0x557, 0x558, 1), (0x58b, 0x58c, 1),
  (0x590, 0x590, 1), (0x5c8, 0x5cf, 1), (0x5eb, 0x5ee, 1), (0x5f5, 0x605, 1), (0x61c, 0x61c, 1),
  (0x6dd, 0x6dd, 1), (0x70e, 0x70f, 1), (0x74b, 0x74c, 1), (0x7b2, 0x7bf, 1), (0x7fb, 0x7fc, 1),
  (0x82e, 0x82f, 1), (0x83f, 0x83f, 1), (0x85c, 0x85d, 1), (0x85f, 0x85f, 1), (0x86b, 0x86f, 1),
  (0x88f, 0x897, 1), (0x8e2, 0x8e2, 1), (0x984, 0x984, 1), (0x98d, 0x98e, 1), (0x991, 0x992, 1),
  (0x9a9, 0x9a9, 1), (0x9b1, 0x9b1, 1), (0x9b3, 0x9b5, 1), (0x9ba, 0x9bb, 1), (0x9c5, 0x9c6, 1),
  (0x9c9, 0x9ca, 1), (0x9cf, 0x9d6, 1), (0x9d8, 0x9db, 1), (0x9de, 0x9de, 1), (0x9e4, 0x9e5, 1),
  (0x9ff, 0xa00, 1), (0xa04, 0xa04, 1), (0xa0b, 0xa0e, 1), (0xa11, 0xa12, 1), (0xa29, 0xa29, 1),
  (0xa31, 0xa31, 1), (0xa34, 0xa34, 1), (0xa37, 0xa37, 1), (0xa3a, 0xa3b, 1), (0xa3d, 0xa3d, 1),
  (0xa43, 0xa46, 1), (0xa49, 0xa4a, 1), (0xa4e, 0xa50, 1), (0xa52, 0xa58, 1), (0xa5d, 0xa5d, 1),
  (0xa5f, 0xa65, 1), (0xa77, 0xa80, 1), (0xa84, 0xa84, 1), (0xa8e, 0xa8e, 1), (0xa92, 0xa92, 1),
  (0xaa9, 0xaa9, 1), (0xab1, 0xab1, 1), (0xab4, 0xab4, 1), (0xaba, 0xabb, 1), (0xac6, 0xac6, 1),
  (0xaca, 0xaca, 1), (0xace, 0xacf, 1), (0xad1, 0xadf, 1), (0xae4, 0xae5, 1), (0xaf2, 0xaf8, 1),
  (0xb00, 0xb00, 1), (0xb04, 0xb04, 1), (0xb0d, 0xb0e, 1), (0xb11, 0xb12, 1), (0xb29, 0xb29, 1),
  (0xb31, 0xb31, 1), (0xb34, 0xb34, 1), (0xb3a, 0xb3b, 1), (0xb45, 0xb46, 1), (0xb49, 0xb4a, 1),
  (0xb4e, 0xb54, 1), (0xb58, 0xb5b, 1), (0xb5e, 0xb5e, 1), (0xb64, 0xb65, 1), (0xb78, 0xb81, 1),
  (0xb84, 0xb84, 1), (0xb8b, 0xb8d, 1), (0xb91, 0xb91, 1), (0xb96, 0xb98, 1), (0xb9b, 0xb9b, 1),
  (0xb9d, 0xb9d, 1), (0xba0, 0xba2, 1), (0xba5, 0xba7, 1), (0xbab, 0xbad, 1), (0xbba, 0xbbd, 1),
  (0xbc3, 0xbc5, 1), (0xbc9, 0xbc9, 1), (0xbce, 0xbcf, 1), (0xbd1, 0xbd6, 1), (0xbd8, 0xbe5, 1),
  (0xbfb, 0xbff, 1), (0xc0d, 0xc0d, 1), (0xc11, 0xc11, 1), (0xc29, 0xc29, 1), (0xc3a, 0xc3b, 1),
  (0xc45, 0xc45, 1), (0xc49, 0xc49, 1), (0xc4e, 0xc54, 1), (0xc57, 0xc57, 1), (0xc5b, 0xc5c, 1),
  (0xc5e, 0xc5f, 1), (0xc64, 0xc65, 1), (0xc70, 0xc76, 1), (0xc8d, 0xc8d, 1), (0xc91, 0xc91, 1),
  (0xca9, 0xca9, 1), (0xcb4, 0xcb4, 1), (0xcba, 0xcbb, 1), (0xcc5, 0xcc5, 1), (0xcc9, 0xcc9, 1),
  (0xcce, 0xcd4, 1), (0xcd7, 0xcdc, 1), (0xcdf, 0xcdf, 1), (0xce4, 0xce5, 1), (0xcf0, 0xcf0, 1),
  (0xcf4, 0xcff, 1), (0xd0d, 0xd0d, 1), (0xd11, 0xd11, 1), (0xd45, 0xd45, 1), (0xd49, 0xd49, 1),
  (0xd50, 0xd53, 1), (0xd64, 0xd65, 1), (0xd80, 0xd80, 1), (0xd84, 0xd84, 1), (0xd97, 0xd99, 1),
  (0xdb2, 0xdb2, 1), (0xdbc, 0xdbc, 1), (0xdbe, 0xdbf, 1), (0xdc7, 0xdc9, 1), (0xdcb, 0xdce, 1),
  (0xdd5, 0xdd5, 1), (0xdd7, 0xdd7, 1), (0xde0, 0xde5, 1), (0xdf0, 0xdf1, 1), (0xdf5, 0xe00, 1),
  (0xe3b, 0xe3e, 1), (0xe5c, 0xe80, 1), (0xe83, 0xe83, 1), (0xe85, 0xe85, 1), (0xe8b, 0xe8b, 1),
  (0xea4, 0xea4, 1), (0xea6, 0xea6, 1), (0xebe, 0xebf, 1), (0xec5, 0xec5, 1), (0xec7, 0xec7, 1),
  (0xecf, 0xecf, 1), (0xeda, 0xedb, 1), (0xee0, 0xeff, 1), (0xf48, 0xf48, 1), (0xf6d, 0xf70, 1),
  (0xf98, 0xf98, 1), (0xfbd, 0xfbd, 1), (0xfcd, 0xfcd, 1), (0xfdb, 0xfff, 1),
  (0x10a0, 0x10c6, 1), (0x10c8, 0x10cc, 1), (0x10ce, 0x10cf, 1), (0x115f, 0x1160, 1),
  (0x1249, 0x1249, 1), (0x124e, 0x124f, 1), (0x1257, 0x1257, 1), (0x1259, 0x1259, 1),
  (0x125e, 0x125f, 1), (0x1289, 0x1289, 1), (0x128e, 0x128f, 1), (0x12b1, 0x12b1, 1),
  (0x12b6, 0x12b7, 1), (0x12bf, 0x12bf, 1), (0x12c1, 0x12c1, 1), (0x12c6, 0x12c7, 1),
  (0x12d7, 0x12d7, 1), (0x1311, 0x1311, 1), (0x1316, 0x1317, 1), (0x135b, 0x135c, 1),
  (0x137d, 0x137f, 1), (0x139a, 0x139f, 1), (0x13f6, 0x13f7, 1), (0x13fe, 0x13ff, 1),
  (0x1680, 0x1680, 1), (0x169d, 0x169f, 1), (0x16f9, 0x16ff, 1), (0x1716, 0x171e, 1),
  (0x1737, 0x173f, 1), (0x1754, 0x175f, 1), (0x176d, 0x176d, 1), (0x1771, 0x1771, 1),
  (0x1774, 0x177f, 1), (0x17b4, 0x17b5, 1), (0x17de, 0x17df, 1), (0x17ea, 0x17ef, 1),
  (0x17fa, 0x17ff, 1), (0x1806, 0x1806, 1), (0x180e, 0x180e, 1), (0x181a, 0x181f, 1),
  (0x1879, 0x187f, 1), (0x18ab, 0x18af, 1), (0x18f6, 0x18ff, 1), (0x191f, 0x191f, 1),
  (0x192c, 0x192f, 1), (0x193c, 0x193f, 1), (0x1941, 0x1943, 1), (0x196e, 0x196f, 1),
  (0x1975, 0x197f, 1), (0x19ac, 0x19af, 1), (0x19ca, 0x19cf, 1), (0x19db, 0x19dd, 1),
  (0x1a1c, 0x1a1d, 1), (0x1a5f, 0x1a5f, 1), (0x1a7d, 0x1a7e, 1), (0x1a8a, 0x1a8f, 1),
  (0x1a9a, 0x1a9f, 1), (0x1aae, 0x1aaf, 1), (0x1acf, 0x1aff, 1), (0x1b4d, 0x1b4f, 1),
  (0x1b7f, 0x1b7f, 1), (0x1bf4, 0x1bfb, 1), (0x1c38, 0x1c3a, 1), (0x1c4a, 0x1c4c, 1),
  (0x1c89, 0x1c8f, 1), (0x1cbb, 0x1cbc, 1), (0x1cc8, 0x1ccf, 1), (0x1cfb, 0x1cff, 1),
  (0x1f16, 0x1f17, 1), (0x1f1e, 0x1f1f, 1), (0x1f46, 0x1f47, 1), (0x1f4e, 0x1f4f, 1),
  (0x1f58, 0x1f58, 1), (0x1f5a, 0x1f5a, 1), (0x1f5c, 0x1f5c, 1), (0x1f5e, 0x1f5e, 1),
  (0x1f7e, 0x1f7f, 1), (0x1fb5, 0x1fb5, 1), (0x1fc5, 0x1fc5, 1), (0x1fd4, 0x1fd5, 1),
  (0x1fdc, 0x1fdc, 1), (0x1ff0, 0x1ff1, 1), (0x1ff5, 0x1ff5, 1), (0x1fff, 0x1fff, 1),
  (0x200e, 0x200f, 1), (0x2024, 0x2026, 1), (0x2028, 0x202e, 1), (0x2061, 0x2063, 1),
  (0x2065, 0x206f, 1), (0x2072, 0x2073, 1), (0x208f, 0x208f, 1), (0x209d, 0x209f, 1),
  (0x20c1, 0x20cf, 1), (0x20f1, 0x20ff, 1), (0x2132, 0x2132, 1), (0x2183, 0x2183, 1),
  (0x218c, 0x218f, 1), (0x2427, 0x243f, 1), (0x244b, 0x245f, 1), (0x2488, 0x249b, 1),
  (0x2b74, 0x2b75, 1), (0x2b96, 0x2b96, 1), (0x2cf4, 0x2cf8, 1), (0x2d26, 0x2d26, 1),
  (0x2d28, 0x2d2c, 1), (0x2d2e, 0x2d2f, 1), (0x2d68, 0x2d6e, 1), (0x2d71, 0x2d7e, 1),
  (0x2d97, 0x2d9f, 1), (0x2da7, 0x2da7, 1), (0x2daf, 0x2daf, 1), (0x2db7, 0x2db7, 1),
  (0x2dbf, 0x2dbf, 1), (0x2dc7, 0x2dc7, 1), (0x2dcf, 0x2dcf, 1), (0x2dd7, 0x2dd7, 1),
  (0x2ddf, 0x2ddf, 1), (0x2e5e, 0x2e7f, 1), (0x2e9a, 0x2e9a, 1), (0x2ef4, 0x2eff, 1),
  (0x2fd6, 0x2fff, 1), (0x3040, 0x3040, 1), (0x3097, 0x3098, 1), (0x3100, 0x3104, 1),
  (0x3130, 0x3130, 1), (0x3164, 0x3164, 1), (0x318f, 0x318f, 1), (0x31e4, 0x31ef, 1),
  (0x321f, 0x321f, 1), (0x33c2, 0x33c2, 1), (0x33c7, 0x33c7, 1), (0x33d8, 0x33d8, 1),
  (0xa48d, 0xa48f, 1), (0xa4c7, 0xa4cf, 1), (0xa62c, 0xa63f, 1), (0xa6f8, 0xa6ff, 1),
  (0xa7cb, 0xa7cf, 1), (0xa7d2, 0xa7d2, 1), (0xa7d4, 0xa7d4, 1), (0xa7da, 0xa7f1, 1),
  (0xa82d, 0xa82f, 1), (0xa83a, 0xa83f, 1), (0xa878, 0xa87f, 1), (0xa8c6, 0xa8cd, 1),
  (0xa8da, 0xa8df, 1), (0xa954, 0xa95e, 1), (0xa97d, 0xa97f, 1), (0xa9ce, 0xa9ce, 1),
  (0xa9da, 0xa9dd, 1), (0xa9ff, 0xa9ff, 1), (0xaa37, 0xaa3f, 1), (0xaa4e, 0xaa4f, 1),
  (0xaa5a, 0xaa5b, 1), (0xaac3, 0xaada, 1), (0xaaf7, 0xab00, 1), (0xab07, 0xab08, 1),
  (0xab0f, 0xab10, 1), (0xab17, 0xab1f, 1), (0xab27, 0xab27, 1), (0xab2f, 0xab2f, 1),
  (0xab6c, 0xab6f, 1), (0xabee, 0xabef, 1), (0xabfa, 0xabff, 1), (0xd7a4, 0xd7af, 1),
  (0xd7c7, 0xd7ca, 1), (0xd7fc, 0xf8ff, 1), (0xfa6e, 0xfa6f, 1), (0xfada, 0xfaff, 1),
  (0xfb07, 0xfb12, 1), (0xfb18, 0xfb1c, 1), (0xfb37, 0xfb37, 1), (0xfb3d, 0xfb3d, 1),
  (0xfb3f, 0xfb3f, 1), (0xfb42, 0xfb42, 1), (0xfb45, 0xfb45, 1), (0xfbc3, 0xfbd2, 1),
  (0xfd90, 0xfd91, 1), (0xfdc8, 0xfdce, 1), (0xfdd0, 0xfdef, 1), (0xfe12, 0xfe12, 1),
  (0xfe19, 0xfe1f, 1), (0xfe30, 0xfe30, 1), (0xfe52, 0xfe53, 1), (0xfe67, 0xfe67, 1),
  (0xfe6c, 0xfe6f, 1), (0xfe75, 0xfe75, 1), (0xfefd, 0xfefe, 1), (0xff00, 0xff00, 1),
  (0xffa0, 0xffa0, 1), (0xffbf, 0xffc1, 1), (0xffc8, 0xffc9, 1), (0xffd0, 0xffd1, 1),
  (0xffd8, 0xffd9, 1), (0xffdd, 0xffdf, 1), (0xffe7, 0xffe7, 1), (0xffef, 0xffff, 1),
  (0x1000c, 0x1000c, 1), (0x10027, 0x10027, 1), (0x1003b, 0x1003b, 1), (0x1003e, 0x1003e, 1),
  (0x1004e, 0x1004f, 1), (0x1005e, 0x1007f, 1), (0x100fb, 0x100ff, 1), (0x10103, 0x10106, 1),
  (0x10134, 0x10136, 1), (0x1018f, 0x1018f, 1), (0x1019d, 0x1019f, 1), (0x101a1, 0x101cf, 1),
  (0x101fe, 0x1027f, 1), (0x1029d, 0x1029f, 1), (0x102d1, 0x102df, 1), (0x102fc, 0x102ff, 1),
  (0x10324, 0x1032c, 1), (0x1034b, 0x1034f, 1), (0x1037b, 0x1037f, 1), (0x1039e, 0x1039e, 1),
  (0x103c4, 0x103c7, 1), (0x103d6, 0x103ff, 1), (0x1049e, 0x1049f, 1), (0x104aa, 0x104af, 1),
  (0x104d4, 0x104d7, 1), (0x104fc, 0x104ff, 1), (0x10528, 0x1052f, 1), (0x10564, 0x1056e, 1),
  (0x1057b, 0x1057b, 1), (0x1058b, 0x1058b, 1), (0x10593, 0x10593, 1), (0x10596, 0x10596, 1),
  (0x105a2, 0x105a2, 1), (0x105b2, 0x105b2, 1), (0x105ba, 0x105ba, 1), (0x105bd, 0x105ff, 1),
  (0x10737, 0x1073f, 1), (0x10756, 0x1075f, 1), (0x10768, 0x1077f, 1), (0x10786, 0x10786, 1),
  (0x107b1, 0x107b1, 1), (0x107bb, 0x107ff, 1), (0x10806, 0x10807, 1), (0x10809, 0x10809, 1),
  (0x10836, 0x10836, 1), (0x10839, 0x1083b, 1), (0x1083d, 0x1083e, 1), (0x10856, 0x10856, 1),
  (0x1089f, 0x108a6, 1), (0x108b0, 0x108df, 1), (0x108f3, 0x108f3, 1), (0x108f6, 0x108fa, 1),
  (0x1091c, 0x1091e, 1), (0x1093a, 0x1093e, 1), (0x10940, 0x1097f, 1), (0x109b8, 0x109bb, 1),
  (0x109d0, 0x109d1, 1), (0x10a04, 0x10a04, 1), (0x10a07, 0x10a0b, 1), (0x10a14, 0x10a14, 1),
  (0x10a18, 0x10a18, 1), (0x10a36, 0x10a37, 1), (0x10a3b, 0x10a3e, 1), (0x10a49, 0x10a4f, 1),
  (0x10a59, 0x10a5f, 1), (0x10aa0, 0x10abf, 1), (0x10ae7, 0x10aea, 1), (0x10af7, 0x10aff, 1),
  (0x10b36, 0x10b38, 1), (0x10b56, 0x10b57, 1), (0x10b73, 0x10b77, 1), (0x10b92, 0x10b98, 1),
  (0x10b9d, 0x10ba8, 1), (0x10bb0, 0x10bff, 1), (0x10c49, 0x10c7f, 1), (0x10cb3, 0x10cbf, 1),
  (0x10cf3, 0x10cf9, 1), (0x10d28, 0x10d2f, 1), (0x10d3a, 0x10e5f, 1), (0x10e7f, 0x10e7f, 1),
  (0x10eaa, 0x10eaa, 1), (0x10eae, 0x10eaf, 1), (0x10eb2, 0x10efc, 1), (0x10f28, 0x10f2f, 1),
  (0x10f5a, 0x10f6f, 1), (0x10f8a, 0x10faf, 1), (0x10fcc, 0x10fdf, 1), (0x10ff7, 0x10fff, 1),
  (0x1104e, 0x11051, 1), (0x11076, 0x1107e, 1), (0x110bd, 0x110bd, 1), (0x110c3, 0x110cf, 1),
  (0x110e9, 0x110ef, 1), (0x110fa, 0x110ff, 1), (0x11135, 0x11135, 1), (0x11148, 0x1114f, 1),
  (0x11177, 0x1117f, 1), (0x111e0, 0x111e0, 1), (0x111f5, 0x111ff, 1), (0x11212, 0x11212, 1),
  (0x11242, 0x1127f, 1), (0x11287, 0x11287, 1), (0x11289, 0x11289, 1), (0x1128e, 0x1128e, 1),
  (0x1129e, 0x1129e, 1), (0x112aa, 0x112af, 1), (0x112eb, 0x112ef, 1), (0x112fa, 0x112ff, 1),
  (0x11304, 0x11304, 1), (0x1130d, 0x1130e, 1), (0x11311, 0x11312, 1), (0x11329, 0x11329, 1),
  (0x11331, 0x11331, 1), (0x11334, 0x11334, 1), (0x1133a, 0x1133a, 1), (0x11345, 0x11346, 1),
  (0x11349, 0x1134a, 1), (0x1134e, 0x1134f, 1), (0x11351, 0x11356, 1), (0x11358, 0x1135c, 1),
  (0x11364, 0x11365, 1), (0x1136d, 0x1136f, 1), (0x11375, 0x113ff, 1), (0x1145c, 0x1145c, 1),
  (0x11462, 0x1147f, 1), (0x114c8, 0x114cf, 1), (0x114da, 0x1157f, 1), (0x115b6, 0x115b7, 1),
  (0x115de, 0x115ff, 1), (0x11645, 0x1164f, 1), (0x1165a, 0x1165f, 1), (0x1166d, 0x1167f, 1),
  (0x116ba, 0x116bf, 1), (0x116ca, 0x116ff, 1), (0x1171b, 0x1171c, 1), (0x1172c, 0x1172f, 1),
  (0x11747, 0x117ff, 1), (0x1183c, 0x1189f, 1), (0x118f3, 0x118fe, 1), (0x11907, 0x11908, 1),
  (0x1190a, 0x1190b, 1), (0x11914, 0x11914, 1), (0x11917, 0x11917, 1), (0x11936, 0x11936, 1),
  (0x11939, 0x1193a, 1), (0x11947, 0x1194f, 1), (0x1195a, 0x1199f, 1), (0x119a8, 0x119a9, 1),
  (0x119d8, 0x119d9, 1), (0x119e5, 0x119ff, 1), (0x11a48, 0x11a4f, 1), (0x11aa3, 0x11aaf, 1),
  (0x11af9, 0x11aff, 1), (0x11b0a, 0x11bff, 1), (0x11c09, 0x11c09, 1), (0x11c37, 0x11c37, 1),
  (0x11c46, 0x11c4f, 1), (0x11c6d, 0x11c6f, 1), (0x11c90, 0x11c91, 1), (0x11ca8, 0x11ca8, 1),
  (0x11cb7, 0x11cff, 1), (0x11d07, 0x11d07, 1), (0x11d0a, 0x11d0a, 1), (0x11d37, 0x11d39, 1),
  (0x11d3b, 0x11d3b, 1), (0x11d3e, 0x11d3e, 1), (0x11d48, 0x11d4f, 1), (0x11d5a, 0x11d5f, 1),
  (0x11d66, 0x11d66, 1), (0x11d69, 0x11d69, 1), (0x11d8f, 0x11d8f, 1), (0x11d92, 0x11d92, 1),
  (0x11d99, 0x11d9f, 1), (0x11daa, 0x11edf, 1), (0x11ef9, 0x11eff, 1), (0x11f11, 0x11f11, 1),
  (0x11f3b, 0x11f3d, 1), (0x11f5a, 0x11faf, 1), (0x11fb1, 0x11fbf, 1), (0x11ff2, 0x11ffe, 1),
  (0x1239a, 0x123ff, 1), (0x1246f, 0x1246f, 1), (0x12475, 0x1247f, 1), (0x12544, 0x12f8f, 1),
  (0x12ff3, 0x12fff, 1), (0x13430, 0x1343f, 1), (0x13456, 0x143ff, 1), (0x14647, 0x167ff, 1),
  (0x16a39, 0x16a3f, 1), (0x16a5f, 0x16a5f, 1), (0x16a6a, 0x16a6d, 1), (0x16abf, 0x16abf, 1),
  (0x16aca, 0x16acf, 1), (0x16aee, 0x16aef, 1), (0x16af6, 0x16aff, 1), (0x16b46, 0x16b4f, 1),
  (0x16b5a, 0x16b5a, 1), (0x16b62, 0x16b62, 1), (0x16b78, 0x16b7c, 1), (0x16b90, 0x16e3f, 1),
  (0x16e9b, 0x16eff, 1), (0x16f4b, 0x16f4e, 1), (0x16f88, 0x16f8e, 1), (0x16fa0, 0x16fdf, 1),
  (0x16fe5, 0x16fef, 1), (0x16ff2, 0x16fff, 1), (0x187f8, 0x187ff, 1), (0x18cd6, 0x18cff, 1),
  (0x18d09, 0x1afef, 1), (0x1aff4, 0x1aff4, 1), (0x1affc, 0x1affc, 1), (0x1afff, 0x1afff, 1),
  (0x1b123, 0x1b131, 1), (0x1b133, 0x1b14f, 1), (0x1b153, 0x1b154, 1), (0x1b156, 0x1b163, 1),
  (0x1b168, 0x1b16f, 1), (0x1b2fc, 0x1bbff, 1), (0x1bc6b, 0x1bc6f, 1), (0x1bc7d, 0x1bc7f, 1),
  (0x1bc89, 0x1bc8f, 1), (0x1bc9a, 0x1bc9b, 1), (0x1bca4, 0x1ceff, 1), (0x1cf2e, 0x1cf2f, 1),
  (0x1cf47, 0x1cf4f, 1), (0x1cfc4, 0x1cfff, 1), (0x1d0f6, 0x1d0ff, 1), (0x1d127, 0x1d128, 1),
  (0x1d173, 0x1d17a, 1), (0x1d1eb, 0x1d1ff, 1), (0x1d246, 0x1d2bf, 1), (0x1d2d4, 0x1d2df, 1),
  (0x1d2f4, 0x1d2ff, 1), (0x1d357, 0x1d35f, 1), (0x1d379, 0x1d3ff, 1), (0x1d455, 0x1d455, 1),
  (0x1d49d, 0x1d49d, 1), (0x1d4a0, 0x1d4a1, 1), (0x1d4a3, 0x1d4a4, 1), (0x1d4a7, 0x1d4a8, 1),
  (0x1d4ad, 0x1d4ad, 1), (0x1d4ba, 0x1d4ba, 1), (0x1d4bc, 0x1d4bc, 1), (0x1d4c4, 0x1d4c4, 1),
  (0x1d506, 0x1d506, 1), (0x1d50b, 0x1d50c, 1), (0x1d515, 0x1d515, 1), (0x1d51d, 0x1d51d, 1),
  (0x1d53a, 0x1d53a, 1), (0x1d53f, 0x1d53f, 1), (0x1d545, 0x1d545, 1), (0x1d547, 0x1d549, 1),
  (0x1d551, 0x1d551, 1), (0x1d6a6, 0x1d6a7, 1), (0x1d7cc, 0x1d7cd, 1), (0x1da8c, 0x1da9a, 1),
  (0x1daa0, 0x1daa0, 1), (0x1dab0, 0x1deff, 1), (0x1df1f, 0x1df24, 1), (0x1df2b, 0x1dfff, 1),
  (0x1e007, 0x1e007, 1), (0x1e019, 0x1e01a, 1), (0x1e022, 0x1e022, 1), (0x1e025, 0x1e025, 1),
  (0x1e02b, 0x1e02f, 1), (0x1e06e, 0x1e08e, 1), (0x1e090, 0x1e0ff, 1), (0x1e12d, 0x1e12f, 1),
  (0x1e13e, 0x1e13f, 1), (0x1e14a, 0x1e14d, 1), (0x1e150, 0x1e28f, 1), (0x1e2af, 0x1e2bf, 1),
  (0x1e2fa, 0x1e2fe, 1), (0x1e300, 0x1e4cf, 1), (0x1e4fa, 0x1e7df, 1), (0x1e7e7, 0x1e7e7, 1),
  (0x1e7ec, 0x1e7ec, 1), (0x1e7ef, 0x1e7ef, 1), (0x1e7ff, 0x1e7ff, 1), (0x1e8c5, 0x1e8c6, 1),
  (0x1e8d7, 0x1e8ff, 1), (0x1e94c, 0x1e94f, 1), (0x1e95a, 0x1e95d, 1), (0x1e960, 0x1ec70, 1),
  (0x1ecb5, 0x1ed00, 1), (0x1ed3e, 0x1edff, 1), (0x1ee04, 0x1ee04, 1), (0x1ee20, 0x1ee20, 1),
  (0x1ee23, 0x1ee23, 1), (0x1ee25, 0x1ee26, 1), (0x1ee28, 0x1ee28, 1), (0x1ee33, 0x1ee33, 1),
  (0x1ee38, 0x1ee38, 1), (0x1ee3a, 0x1ee3a, 1), (0x1ee3c, 0x1ee41, 1), (0x1ee43, 0x1ee46, 1),
  (0x1ee48, 0x1ee48, 1), (0x1ee4a, 0x1ee4a, 1), (0x1ee4c, 0x1ee4c, 1), (0x1ee50, 0x1ee50, 1),
  (0x1ee53, 0x1ee53, 1), (0x1ee55, 0x1ee56, 1), (0x1ee58, 0x1ee58, 1), (0x1ee5a, 0x1ee5a, 1),
  (0x1ee5c, 0x1ee5c, 1), (0x1ee5e, 0x1ee5e, 1), (0x1ee60, 0x1ee60, 1), (0x1ee63, 0x1ee63, 1),
  (0x1ee65, 0x1ee66, 1), (0x1ee6b, 0x1ee6b, 1), (0x1ee73, 0x1ee73, 1), (0x1ee78, 0x1ee78, 1),
  (0x1ee7d, 0x1ee7d, 1), (0x1ee7f, 0x1ee7f, 1), (0x1ee8a, 0x1ee8a, 1), (0x1ee9c, 0x1eea0, 1),
  (0x1eea4, 0x1eea4, 1), (0x1eeaa, 0x1eeaa, 1), (0x1eebc, 0x1eeef, 1), (0x1eef2, 0x1efff, 1),
  (0x1f02c, 0x1f02f, 1), (0x1f094, 0x1f09f, 1), (0x1f0af, 0x1f0b0, 1), (0x1f0c0, 0x1f0c0, 1),
  (0x1f0d0, 0x1f0d0, 1), (0x1f0f6, 0x1f100, 1), (0x1f1ae, 0x1f1e5, 1), (0x1f203, 0x1f20f, 1),
  (0x1f23c, 0x1f23f, 1), (0x1f249, 0x1f24f, 1), (0x1f252, 0x1f25f, 1), (0x1f266, 0x1f2ff, 1),
  (0x1f6d8, 0x1f6db, 1), (0x1f6ed, 0x1f6ef, 1), (0x1f6fd, 0x1f6ff, 1), (0x1f777, 0x1f77a, 1),
  (0x1f7da, 0x1f7df, 1), (0x1f7ec, 0x1f7ef, 1), (0x1f7f1, 0x1f7ff, 1), (0x1f80c, 0x1f80f, 1),
  (0x1f848, 0x1f84f, 1), (0x1f85a, 0x1f85f, 1), (0x1f888, 0x1f88f, 1), (0x1f8ae, 0x1f8af, 1),
  (0x1f8b2, 0x1f8ff, 1), (0x1fa54, 0x1fa5f, 1), (0x1fa6e, 0x1fa6f, 1), (0x1fa7d, 0x1fa7f, 1),
  (0x1fa89, 0x1fa8f, 1), (0x1fabe, 0x1fabe, 1), (0x1fac6, 0x1facd, 1), (0x1fadc, 0x1fadf, 1),
  (0x1fae9, 0x1faef, 1), (0x1faf9, 0x1faff, 1), (0x1fb93, 0x1fb93, 1), (0x1fbcb, 0x1fbef, 1),
  (0x1fbfa, 0x1ffff, 1), (0x2a6e0, 0x2a6ff, 1), (0x2b73a, 0x2b73f, 1), (0x2b81e, 0x2b81f, 1),
  (0x2cea2, 0x2ceaf, 1), (0x2ebe1, 0x2ebef, 1), (0x2ee5e, 0x2f7ff, 1), (0x2f868, 0x2f868, 1),
  (0x2f874, 0x2f874, 1), (0x2f91f, 0x2f91f, 1), (0x2f95f, 0x2f95f, 1), (0x2f9bf, 0x2f9bf, 1),
  (0x2fa1e, 0x2ffff, 1), (0x3134b, 0x3134f, 1), (0x323b0, 0xe00ff, 1), (0xe01f0, 0x10ffff, 1)]

/-- Characters that are left out. -/
def droppedRuns : List (Nat × Nat × Nat) := [
  (0xad, 0xad, 1), (0x34f, 0x34f, 1), (0x180b, 0x180d, 1), (0x180f, 0x180f, 1),
  (0x200b, 0x200b, 1), (0x2060, 0x2060, 1), (0x2064, 0x2064, 1), (0xfe00, 0xfe0f, 1),
  (0xfeff, 0xfeff, 1), (0x1bca0, 0x1bca3, 1), (0xe0100, 0xe01ef, 1)]

/-- Characters with another form: first, last and step of a run, and the form of the first. -/
def mappedRuns : List (Nat × Nat × Nat × Nat) := [
  (0xa0, 0xa0, 1, 0x20), (0xaa, 0xaa, 1, 0x61), (0xb2, 0xb3, 1, 0x32), (0xb5, 0xb5, 1, 0x3bc),
  (0xb9, 0xb9, 1, 0x31), (0xba, 0xba, 1, 0x6f), (0xc0, 0xd6, 1, 0xe0), (0xd8, 0xde, 1, 0xf8),
  (0x100, 0x12e, 2, 0x101), (0x134, 0x136, 2, 0x135), (0x139, 0x13d, 2, 0x13a),
  (0x141, 0x147, 2, 0x142), (0x14a, 0x176, 2, 0x14b), (0x178, 0x178, 1, 0xff),
  (0x179, 0x17d, 2, 0x17a), (0x17f, 0x17f, 1, 0x73), (0x181, 0x181, 1, 0x253),
  (0x182, 0x184, 2, 0x183), (0x186, 0x186, 1, 0x254), (0x187, 0x187, 1, 0x188),
  (0x189, 0x18a, 1, 0x256), (0x18b, 0x18b, 1, 0x18c), (0x18e, 0x18e, 1, 0x1dd),
  (0x18f, 0x18f, 1, 0x259), (0x190, 0x190, 1, 0x25b), (0x191, 0x191, 1, 0x192),
  (0x193, 0x193, 1, 0x260), (0x194, 0x194, 1, 0x263), (0x196, 0x196, 1, 0x269),
  (0x197, 0x197, 1, 0x268), (0x198, 0x198, 1, 0x199), (0x19c, 0x19c, 1, 0x26f),
  (0x19d, 0x19d, 1, 0x272), (0x19f, 0x19f, 1, 0x275), (0x1a0, 0x1a4, 2, 0x1a1),
  (0x1a6, 0x1a6, 1, 0x280), (0x1a7, 0x1a7, 1, 0x1a8), (0x1a9, 0x1a9, 1, 0x283),
  (0x1ac, 0x1ac, 1, 0x1ad), (0x1ae, 0x1ae, 1, 0x288), (0x1af, 0x1af, 1, 0x1b0),
  (0x1b1, 0x1b2, 1, 0x28a), (0x1b3, 0x1b5, 2, 0x1b4), (0x1b7, 0x1b7, 1, 0x292),
  (0x1b8, 0x1b8, 1, 0x1b9), (0x1bc, 0x1bc, 1, 0x1bd), (0x1cd, 0x1db, 2, 0x1ce),
  (0x1de, 0x1ee, 2, 0x1df), (0x1f4, 0x1f4, 1, 0x1f5), (0x1f6, 0x1f6, 1, 0x195),
  (0x1f7, 0x1f7, 1, 0x1bf), (0x1f8, 0x21e, 2, 0x1f9), (0x220, 0x220, 1, 0x19e),
  (0x222, 0x232, 2, 0x223), (0x23a, 0x23a, 1, 0x2c65), (0x23b, 0x23b, 1, 0x23c),
  (0x23d, 0x23d, 1, 0x19a), (0x23e, 0x23e, 1, 0x2c66), (0x241, 0x241, 1, 0x242),
  (0x243, 0x243, 1, 0x180), (0x244, 0x244, 1, 0x289), (0x245, 0x245, 1, 0x28c),
  (0x246, 0x24e, 2, 0x247), (0x2b0, 0x2b0, 1, 0x68), (0x2b1, 0x2b1, 1, 0x266),
  (0x2b2, 0x2b2, 1, 0x6a), (0x2b3, 0x2b3, 1, 0x72), (0x2b4, 0x2b4, 1, 0x279),
  (0x2b5, 0x2b5, 1, 0x27b), (0x2b6, 0x2b6, 1, 0x281), (0x2b7, 0x2b7, 1, 0x77),
  (0x2b8, 0x2b8, 1, 0x79), (0x2e0, 0x2e0, 1, 0x263), (0x2e1, 0x2e1, 1, 0x6c),
  (0x2e2, 0x2e2, 1, 0x73), (0x2e3, 0x2e3, 1, 0x78), (0x2e4, 0x2e4, 1, 0x295),
  (0x340, 0x341, 1, 0x300), (0x343, 0x343, 1, 0x313), (0x345, 0x345, 1, 0x3b9),
  (0x370, 0x372, 2, 0x371), (0x374, 0x374, 1, 0x2b9), (0x376, 0x376, 1, 0x377),
  (0x37e, 0x37e, 1, 0x3b), (0x37f, 0x37f, 1, 0x3f3), (0x386, 0x386, 1, 0x3ac),
  (0x387, 0x387, 1, 0xb7), (0x388, 0x38a, 1, 0x3ad), (0x38c, 0x38c, 1, 0x3cc),
  (0x38e, 0x38f, 1, 0x3cd), (0x391, 0x3a1, 1, 0x3b1), (0x3a3, 0x3ab, 1, 0x3c3),
  (0x3cf, 0x3cf, 1, 0x3d7), (0x3d0, 0x3d0, 1, 0x3b2), (0x3d1, 0x3d1, 1, 0x3b8),
  (0x3d2, 0x3d2, 1, 0x3c5), (0x3d3, 0x3d3, 1, 0x3cd), (0x3d4, 0x3d4, 1, 0x3cb),
  (0x3d5, 0x3d5, 1, 0x3c6), (0x3d6, 0x3d6, 1, 0x3c0), (0x3d8, 0x3ee, 2, 0x3d9),
  (0x3f0, 0x3f0, 1, 0x3ba), (0x3f1, 0x3f1, 1, 0x3c1), (0x3f2, 0x3f2, 1, 0x3c3),
  (0x3f4, 0x3f4, 1, 0x3b8), (0x3f5, 0x3f5, 1, 0x3b5), (0x3f7, 0x3f7, 1, 0x3f8),
  (0x3f9, 0x3f9, 1, 0x3c3), (0x3fa, 0x3fa, 1, 0x3fb), (0x3fd, 0x3ff, 1, 0x37b),
  (0x400, 0x40f, 1, 0x450), (0x410, 0x42f, 1, 0x430), (0x460, 0x480, 2, 0x461),
  (0x48a, 0x4be, 2, 0x48b), (0x4c1, 0x4cd, 2, 0x4c2), (0x4d0, 0x52e, 2, 0x4d1),
  (0x531, 0x556, 1, 0x561), (0xf0c, 0xf0c, 1, 0xf0b), (0x10c7, 0x10c7, 1, 0x2d27),
  (0x10cd, 0x10cd, 1, 0x2d2d), (0x10fc, 0x10fc, 1, 0x10dc), (0x13f8, 0x13fd, 1, 0x13f0),
  (0x1c80, 0x1c80, 1, 0x432), (0x1c81, 0x1c81, 1, 0x434), (0x1c82, 0x1c82, 1, 0x43e),
  (0x1c83, 0x1c84, 1, 0x441), (0x1c85, 0x1c85, 1, 0x442), (0x1c86, 0x1c86, 1, 0x44a),
  (0x1c87, 0x1c87, 1, 0x463), (0x1c88, 0x1c88, 1, 0xa64b), (0x1c90, 0x1cba, 1, 0x10d0),
  (0x1cbd, 0x1cbf, 1, 0x10fd), (0x1d2c, 0x1d2c, 1, 0x61), (0x1d2d, 0x1d2d, 1, 0xe6),
  (0x1d2e, 0x1d30, 2, 0x62), (0x1d31, 0x1d31, 1, 0x65), (0x1d32, 0x1d32, 1, 0x1dd),
  (0x1d33, 0x1d3a, 1, 0x67), (0x1d3c, 0x1d3c, 1, 0x6f), (0x1d3d, 0x1d3d, 1, 0x223),
  (0x1d3e, 0x1d3e, 1, 0x70), (0x1d3f, 0x1d3f, 1, 0x72), (0x1d40, 0x1d41, 1, 0x74),
  (0x1d42, 0x1d42, 1, 0x77), (0x1d43, 0x1d43, 1, 0x61), (0x1d44, 0x1d45, 1, 0x250),
  (0x1d46, 0x1d46, 1, 0x1d02), (0x1d47, 0x1d47, 1, 0x62), (0x1d48, 0x1d49, 1, 0x64),
  (0x1d4a, 0x1d4a, 1, 0x259), (0x1d4b, 0x1d4c, 1, 0x25b), (0x1d4d, 0x1d4d, 1, 0x67),
  (0x1d4f, 0x1d4f, 1, 0x6b), (0x1d50, 0x1d50, 1, 0x6d), (0x1d51, 0x1d51, 1, 0x14b),
  (0x1d52, 0x1d52, 1, 0x6f), (0x1d53, 0x1d53, 1, 0x254), (0x1d54, 0x1d55, 1, 0x1d16),
  (0x1d56, 0x1d56, 1, 0x70), (0x1d57, 0x1d58, 1, 0x74), (0x1d59, 0x1d59, 1, 0x1d1d),
  (0x1d5a, 0x1d5a, 1, 0x26f), (0x1d5b, 0x1d5b, 1, 0x76), (0x1d5c, 0x1d5c, 1, 0x1d25),
  (0x1d5d, 0x1d5f, 1, 0x3b2), (0x1d60, 0x1d61, 1, 0x3c6), (0x1d62, 0x1d62, 1, 0x69),
  (0x1d63, 0x1d63, 1, 0x72), (0x1d64, 0x1d65, 1, 0x75), (0x1d66, 0x1d67, 1, 0x3b2),
  (0x1d68, 0x1d68, 1, 0x3c1), (0x1d69, 0x1d6a, 1, 0x3c6), (0x1d78, 0x1d78, 1, 0x43d),
  (0x1d9b, 0x1d9b, 1, 0x252), (0x1d9c, 0x1d9c, 1, 0x63), (0x1d9d, 0x1d9d, 1, 0x255),
  (0x1d9e, 0x1d9e, 1, 0xf0), (0x1d9f, 0x1d9f, 1, 0x25c), (0x1da0, 0x1da0, 1, 0x66),
  (0x1da1, 0x1da1, 1, 0x25f), (0x1da2, 0x1da2, 1, 0x261), (0x1da3, 0x1da3, 1, 0x265),
  (0x1da4, 0x1da6, 1, 0x268), (0x1da7, 0x1da7, 1, 0x1d7b), (0x1da8, 0x1da8, 1, 0x29d),
  (0x1da9, 0x1da9, 1, 0x26d), (0x1daa, 0x1daa, 1, 0x1d85), (0x1dab, 0x1dab, 1, 0x29f),
  (0x1dac, 0x1dac, 1, 0x271), (0x1dad, 0x1dad, 1, 0x270), (0x1dae, 0x1db1, 1, 0x272),
  (0x1db2, 0x1db2, 1, 0x278), (0x1db3, 0x1db4, 1, 0x282), (0x1db5, 0x1db5, 1, 0x1ab),
  (0x1db6, 0x1db7, 1, 0x289), (0x1db8, 0x1db8, 1, 0x1d1c), (0x1db9, 0x1dba, 1, 0x28b),
  (0x1dbb, 0x1dbb, 1, 0x7a), (0x1dbc, 0x1dbe, 1, 0x290), (0x1dbf, 0x1dbf, 1, 0x3b8),
  (0x1e00, 0x1e94, 2, 0x1e01), (0x1e9b, 0x1e9b, 1, 0x1e61), (0x1e9e, 0x1e9e, 1, 0xdf),
  (0x1ea0, 0x1efe, 2, 0x1ea1), (0x1f08, 0x1f0f, 1, 0x1f00), (0x1f18, 0x1f1d, 1, 0x1f10),
  (0x1f28, 0x1f2f, 1, 0x1f20), (0x1f38, 0x1f3f, 1, 0x1f30), (0x1f48, 0x1f4d, 1, 0x1f40),
  (0x1f59, 0x1f5f, 2, 0x1f51), (0x1f68, 0x1f6f, 1, 0x1f60), (0x1f71, 0x1f71, 1, 0x3ac),
  (0x1f73, 0x1f73, 1, 0x3ad), (0x1f75, 0x1f75, 1, 0x3ae), (0x1f77, 0x1f77, 1, 0x3af),
  (0x1f79, 0x1f79, 1, 0x3cc), (0x1f7b, 0x1f7b, 1, 0x3cd), (0x1f7d, 0x1f7d, 1, 0x3ce),
  (0x1fb8, 0x1fb9, 1, 0x1fb0), (0x1fba, 0x1fba, 1, 0x1f70), (0x1fbb, 0x1fbb, 1, 0x3ac),
  (0x1fbe, 0x1fbe, 1, 0x3b9), (0x1fc8, 0x1fc8, 1, 0x1f72), (0x1fc9, 0x1fc9, 1, 0x3ad),
  (0x1fca, 0x1fca, 1, 0x1f74), (0x1fcb, 0x1fcb, 1, 0x3ae), (0x1fd3, 0x1fd3, 1, 0x390),
  (0x1fd8, 0x1fd9, 1, 0x1fd0), (0x1fda, 0x1fda, 1, 0x1f76), (0x1fdb, 0x1fdb, 1, 0x3af),
  (0x1fe3, 0x1fe3, 1, 0x3b0), (0x1fe8, 0x1fe9, 1, 0x1fe0), (0x1fea, 0x1fea, 1, 0x1f7a),
  (0x1feb, 0x1feb, 1, 0x3cd), (0x1fec, 0x1fec, 1, 0x1fe5), (0x1fef, 0x1fef, 1, 0x60),
  (0x1ff8, 0x1ff8, 1, 0x1f78), (0x1ff9, 0x1ff9, 1, 0x3cc), (0x1ffa, 0x1ffa, 1, 0x1f7c),
  (0x1ffb, 0x1ffb, 1, 0x3ce), (0x2074, 0x2079, 1, 0x34), (0x207d, 0x207e, 1, 0x28),
  (0x2080, 0x2089, 1, 0x30), (0x208d, 0x208e, 1, 0x28), (0x2096, 0x2099, 1, 0x6b),
  (0x209b, 0x209c, 1, 0x73), (0x2102, 0x2102, 1, 0x63), (0x2107, 0x2107, 1, 0x25b),
  (0x210a, 0x210b, 1, 0x67), (0x210c, 0x210c, 1, 0x68), (0x210d, 0x210d, 1, 0x68),
  (0x210e, 0x210e, 1, 0x68), (0x210f, 0x210f, 1, 0x127), (0x2110, 0x2110, 1, 0x69),
  (0x2111, 0x2111, 1, 0x69), (0x2112, 0x2112, 1, 0x6c), (0x2113, 0x2115, 2, 0x6c),
  (0x2119, 0x211b, 1, 0x70), (0x211c, 0x211c, 1, 0x72), (0x211d, 0x211d, 1, 0x72),
  (0x2124, 0x2124, 1, 0x7a), (0x2126, 0x2126, 1, 0x3c9), (0x2128, 0x2128, 1, 0x7a),
  (0x212a, 0x212a, 1, 0x6b), (0x212b, 0x212b, 1, 0xe5), (0x212c, 0x212d, 1, 0x62),
  (0x212f, 0x212f, 1, 0x65), (0x2130, 0x2131, 1, 0x65), (0x2133, 0x2133, 1, 0x6d),
  (0x2134, 0x2134, 1, 0x6f), (0x2135, 0x2138, 1, 0x5d0), (0x2139, 0x2139, 1, 0x69),
  (0x213c, 0x213c, 1, 0x3c0), (0x213d, 0x213d, 1, 0x3b3), (0x213e, 0x213e, 1, 0x3b3),
  (0x213f, 0x213f, 1, 0x3c0), (0x2140, 0x2140, 1, 0x2211), (0x2145, 0x2145, 1, 0x64),
  (0x2146, 0x2147, 1, 0x64), (0x2148, 0x2149, 1, 0x69), (0x2160, 0x2160, 1, 0x69),
  (0x2164, 0x2164, 1, 0x76), (0x2169, 0x2169, 1, 0x78), (0x216c, 0x216c, 1, 0x6c),
  (0x216d, 0x216e, 1, 0x63), (0x216f, 0x216f, 1, 0x6d), (0x2170, 0x2170, 1, 0x69),
  (0x2174, 0x2174, 1, 0x76), (0x2179, 0x2179, 1, 0x78), (0x217c, 0x217c, 1, 0x6c),
  (0x217d, 0x217e, 1, 0x63), (0x217f, 0x217f, 1, 0x6d), (0x2329, 0x232a, 1, 0x3008),
  (0x2460, 0x2468, 1, 0x31), (0x24b6, 0x24cf, 1, 0x61), (0x24d0, 0x24e9, 1, 0x61),
  (0x24ea, 0x24ea, 1, 0x30), (0x2c00, 0x2c2f, 1, 0x2c30), (0x2c60, 0x2c60, 1, 0x2c61),
  (0x2c62, 0x2c62, 1, 0x26b), (0x2c63, 0x2c63, 1, 0x1d7d), (0x2c64, 0x2c64, 1, 0x27d),
  (0x2c67, 0x2c6b, 2, 0x2c68), (0x2c6d, 0x2c6d, 1, 0x251), (0x2c6e, 0x2c6e, 1, 0x271),
  (0x2c6f, 0x2c6f, 1, 0x250), (0x2c70, 0x2c70, 1, 0x252), (0x2c72, 0x2c72, 1, 0x2c73),
  (0x2c75, 0x2c75, 1, 0x2c76), (0x2c7c, 0x2c7c, 1, 0x6a), (0x2c7d, 0x2c7d, 1, 0x76),
  (0x2c7e, 0x2c7f, 1, 0x23f), (0x2c80, 0x2ce2, 2, 0x2c81), (0x2ceb, 0x2ced, 2, 0x2cec),
  (0x2cf2, 0x2cf2, 1, 0x2cf3), (0x2d6f, 0x2d6f, 1, 0x2d61), (0x3000, 0x3000, 1, 0x20),
  (0x3002, 0x3002, 1, 0x2e), (0x3036, 0x3036, 1, 0x3012), (0x3038, 0x3038, 1, 0x5341),
  (0x3039, 0x303a, 1, 0x5344), (0x3131, 0x3132, 1, 0x1100), (0x3135, 0x3136, 1, 0x11ac),
  (0x3137, 0x3139, 1, 0x1103), (0x313a, 0x313f, 1, 0x11b0), (0x3141, 0x3143, 1, 0x1106),
  (0x3145, 0x314e, 1, 0x1109), (0x314f, 0x3163, 1, 0x1161), (0x3165, 0x3166, 1, 0x1114),
  (0x3167, 0x3168, 1, 0x11c7), (0x3171, 0x3172, 1, 0x111d), (0x3174, 0x3175, 1, 0x1122),
  (0x3178, 0x317c, 1, 0x112b), (0x3182, 0x3183, 1, 0x11f1), (0x3184, 0x3186, 1, 0x1157),
  (0x3187, 0x3188, 1, 0x1184), (0x318a, 0x318b, 1, 0x1191), (0x3261, 0x3262, 1, 0x1102),
  (0x3263, 0x3265, 1, 0x1105), (0x3267, 0x3268, 1, 0x110b), (0x3269, 0x326d, 1, 0x110e),
  (0x32d4, 0x32d5, 1, 0x30aa), (0x32e4, 0x32e9, 1, 0x30ca), (0x32ee, 0x32f2, 1, 0x30de),
  (0x32f5, 0x32fa, 1, 0x30e8), (0x32fb, 0x32fe, 1, 0x30ef), (0xa640, 0xa66c, 2, 0xa641),
  (0xa680, 0xa69a, 2, 0xa681), (0xa69c, 0xa69c, 1, 0x44a), (0xa69d, 0xa69d, 1, 0x44c),
  (0xa722, 0xa72e, 2, 0xa723), (0xa732, 0xa76e, 2, 0xa733), (0xa770, 0xa770, 1, 0xa76f),
  (0xa779, 0xa77b, 2, 0xa77a), (0xa77d, 0xa77d, 1, 0x1d79), (0xa77e, 0xa786, 2, 0xa77f),
  (0xa78b, 0xa78b, 1, 0xa78c), (0xa78d, 0xa78d, 1, 0x265), (0xa790, 0xa792, 2, 0xa791),
  (0xa796, 0xa7a8, 2, 0xa797), (0xa7aa, 0xa7aa, 1, 0x266), (0xa7ab, 0xa7ab, 1, 0x25c),
  (0xa7ac, 0xa7ac, 1, 0x261), (0xa7ad, 0xa7ad, 1, 0x26c), (0xa7ae, 0xa7ae, 1, 0x26a),
  (0xa7b0, 0xa7b0, 1, 0x29e), (0xa7b1, 0xa7b1, 1, 0x287), (0xa7b2, 0xa7b2, 1, 0x29d),
  (0xa7b3, 0xa7b3, 1, 0xab53), (0xa7b4, 0xa7c2, 2, 0xa7b5), (0xa7c4, 0xa7c4, 1, 0xa794),
  (0xa7c5, 0xa7c5, 1, 0x282), (0xa7c6, 0xa7c6, 1, 0x1d8e), (0xa7c7, 0xa7c9, 2, 0xa7c8),
  (0xa7d0, 0xa7d0, 1, 0xa7d1), (0xa7d6, 0xa7d8, 2, 0xa7d7), (0xa7f2, 0xa7f2, 1, 0x63),
  (0xa7f3, 0xa7f3, 1, 0x66), (0xa7f4, 0xa7f4, 1, 0x71), (0xa7f5, 0xa7f5, 1, 0xa7f6),
  (0xa7f8, 0xa7f8, 1, 0x127), (0xa7f9, 0xa7f9, 1, 0x153), (0xab5c, 0xab5c, 1, 0xa727),
  (0xab5d, 0xab5d, 1, 0xab37), (0xab5e, 0xab5e, 1, 0x26b), (0xab5f, 0xab5f, 1, 0xab52),
  (0xab69, 0xab69, 1, 0x28d), (0xab70, 0xabbf, 1, 0x13a0), (0xfa52, 0xfa53, 1, 0x798d),
  (0xfb22, 0xfb23, 1, 0x5d3), (0xfb24, 0xfb26, 1, 0x5db), (0xfb7d, 0xfb7e, 1, 0x686),
  (0xfb9f, 0xfba0, 1, 0x6ba), (0xfba5, 0xfba6, 1, 0x6c0), (0xfbaf, 0xfbb0, 1, 0x6d2),
  (0xfe13, 0xfe14, 1, 0x3a), (0xfe17, 0xfe18, 1, 0x3016), (0xfe35, 0xfe36, 1, 0x28),
  (0xfe39, 0xfe3a, 1, 0x3014), (0xfe3b, 0xfe3c, 1, 0x3010), (0xfe3d, 0xfe3e, 1, 0x300a),
  (0xfe3f, 0xfe40, 1, 0x3008), (0xfe41, 0xfe44, 1, 0x300c), (0xfe59, 0xfe5a, 1, 0x28),
  (0xfe5d, 0xfe5e, 1, 0x3014), (0xfe61, 0xfe62, 1, 0x2a), (0xfe69, 0xfe6a, 1, 0x24),
  (0xfe80, 0xfe81, 1, 0x621), (0xfe82, 0xfe83, 1, 0x622), (0xfe84, 0xfe85, 1, 0x623),
  (0xfe86, 0xfe87, 1, 0x624), (0xfe88, 0xfe89, 1, 0x625), (0xfe8c, 0xfe8d, 1, 0x626),
  (0xfe8e, 0xfe8f, 1, 0x627), (0xfe92, 0xfe93, 1, 0x628), (0xfe94, 0xfe95, 1, 0x629),
  (0xfe98, 0xfe99, 1, 0x62a), (0xfe9c, 0xfe9d, 1, 0x62b), (0xfea0, 0xfea1, 1, 0x62c),
  (0xfea4, 0xfea5, 1, 0x62d), (0xfea8, 0xfea9, 1, 0x62e), (0xfeaa, 0xfeab, 1, 0x62f),
  (0xfeac, 0xfead, 1, 0x630), (0xfeae, 0xfeaf, 1, 0x631), (0xfeb0, 0xfeb1, 1, 0x632),
  (0xfeb4, 0xfeb5, 1, 0x633), (0xfeb8, 0xfeb9, 1, 0x634), (0xfebc, 0xfebd, 1, 0x635),
  (0xfec0, 0xfec1, 1, 0x636), (0xfec4, 0xfec5, 1, 0x637), (0xfec8, 0xfec9, 1, 0x638),
  (0xfecc, 0xfecd, 1, 0x639), (0xfed4, 0xfed5, 1, 0x641), (0xfed8, 0xfed9, 1, 0x642),
  (0xfedc, 0xfedd, 1, 0x643), (0xfee0, 0xfee1, 1, 0x644), (0xfee4, 0xfee5, 1, 0x645),
  (0xfee8, 0xfee9, 1, 0x646), (0xfeec, 0xfeed, 1, 0x647), (0xfeee, 0xfeef, 1, 0x648),
  (0xfef0, 0xfef1, 1, 0x649), (0xff01, 0xff20, 1, 0x21), (0xff21, 0xff3a, 1, 0x61),
  (0xff3b, 0xff5e, 1, 0x5b), (0xff5f, 0xff60, 1, 0x2985), (0xff61, 0xff61, 1, 0x2e),
  (0xff62, 0xff63, 1, 0x300c), (0xff64, 0xff64, 1, 0x3001), (0xff65, 0xff65, 1, 0x30fb),
  (0xff66, 0xff66, 1, 0x30f2), (0xff67, 0xff67, 1, 0x30a1), (0xff68, 0xff68, 1, 0x30a3),
  (0xff69, 0xff69, 1, 0x30a5), (0xff6a, 0xff6a, 1, 0x30a7), (0xff6b, 0xff6b, 1, 0x30a9),
  (0xff6c, 0xff6c, 1, 0x30e3), (0xff6d, 0xff6d, 1, 0x30e5), (0xff6e, 0xff6e, 1, 0x30e7),
  (0xff6f, 0xff6f, 1, 0x30c3), (0xff70, 0xff70, 1, 0x30fc), (0xff71, 0xff71, 1, 0x30a2),
  (0xff72, 0xff72, 1, 0x30a4), (0xff73, 0xff73, 1, 0x30a6), (0xff74, 0xff74, 1, 0x30a8),
  (0xff75, 0xff76, 1, 0x30aa), (0xff77, 0xff77, 1, 0x30ad), (0xff78, 0xff78, 1, 0x30af),
  (0xff79, 0xff79, 1, 0x30b1), (0xff7a, 0xff7a, 1, 0x30b3), (0xff7b, 0xff7b, 1, 0x30b5),
  (0xff7c, 0xff7c, 1, 0x30b7), (0xff7d, 0xff7d, 1, 0x30b9), (0xff7e, 0xff7e, 1, 0x30bb),
  (0xff7f, 0xff7f, 1, 0x30bd), (0xff80, 0xff80, 1, 0x30bf), (0xff81, 0xff81, 1, 0x30c1),
  (0xff82, 0xff82, 1, 0x30c4), (0xff83, 0xff83, 1, 0x30c6), (0xff84, 0xff84, 1, 0x30c8),
  (0xff85, 0xff8a, 1, 0x30ca), (0xff8b, 0xff8b, 1, 0x30d2), (0xff8c, 0xff8c, 1, 0x30d5),
  (0xff8d, 0xff8d, 1, 0x30d8), (0xff8e, 0xff8e, 1, 0x30db), (0xff8f, 0xff93, 1, 0x30de),
  (0xff94, 0xff94, 1, 0x30e4), (0xff95, 0xff95, 1, 0x30e6), (0xff96, 0xff9b, 1, 0x30e8),
  (0xff9c, 0xff9c, 1, 0x30ef), (0xff9d, 0xff9d, 1, 0x30f3), (0xff9e, 0xff9f, 1, 0x3099),
  (0xffa1, 0xffa2, 1, 0x1100), (0xffa3, 0xffa3, 1, 0x11aa), (0xffa4, 0xffa4, 1, 0x1102),
  (0xffa5, 0xffa6, 1, 0x11ac), (0xffa7, 0xffa9, 1, 0x1103), (0xffaa, 0xffaf, 1, 0x11b0),
  (0xffb0, 0xffb0, 1, 0x111a), (0xffb1, 0xffb3, 1, 0x1106), (0xffb4, 0xffb4, 1, 0x1121),
  (0xffb5, 0xffbe, 1, 0x1109), (0xffc2, 0xffc7, 1, 0x1161), (0xffca, 0xffcf, 1, 0x1167),
  (0xffd2, 0xffd7, 1, 0x116d), (0xffda, 0xffdc, 1, 0x1173), (0xffe0, 0xffe1, 1, 0xa2),
  (0xffe2, 0xffe2, 1, 0xac), (0xffe4, 0xffe4, 1, 0xa6), (0xffe5, 0xffe5, 1, 0xa5),
  (0xffe6, 0xffe6, 1, 0x20a9), (0xffe8, 0xffe8, 1, 0x2502), (0xffe9, 0xffec, 1, 0x2190),
  (0xffed, 0xffed, 1, 0x25a0), (0xffee, 0xffee, 1, 0x25cb), (0x10400, 0x10427, 1, 0x10428),
  (0x104b0, 0x104d3, 1, 0x104d8), (0x10570, 0x1057a, 1, 0x10597), (0x1057c, 0x1058a, 1, 0x105a3),
  (0x1058c, 0x10592, 1, 0x105b3), (0x10594, 0x10595, 1, 0x105bb), (0x10781, 0x10782, 1, 0x2d0),
  (0x1078b, 0x1078c, 1, 0x256), (0x10799, 0x1079a, 1, 0x2aa), (0x107a3, 0x107a4, 1, 0x276),
  (0x107a8, 0x107a9, 1, 0x27d), (0x107b3, 0x107b4, 1, 0x2a1), (0x107b6, 0x107b8, 1, 0x1c0),
  (0x10c80, 0x10cb2, 1, 0x10cc0), (0x118a0, 0x118bf, 1, 0x118c0), (0x16e40, 0x16e5f, 1, 0x16e60),
  (0x1d400, 0x1d419, 1, 0x61), (0x1d41a, 0x1d433, 1, 0x61), (0x1d434, 0x1d44d, 1, 0x61),
  (0x1d44e, 0x1d454, 1, 0x61), (0x1d456, 0x1d467, 1, 0x69), (0x1d468, 0x1d481, 1, 0x61),
  (0x1d482, 0x1d49b, 1, 0x61), (0x1d49c, 0x1d49e, 2, 0x61), (0x1d4a5, 0x1d4a6, 1, 0x6a),
  (0x1d4a9, 0x1d4ac, 1, 0x6e), (0x1d4ae, 0x1d4b5, 1, 0x73), (0x1d4b6, 0x1d4b9, 1, 0x61),
  (0x1d4bb, 0x1d4bd, 2, 0x66), (0x1d4be, 0x1d4c3, 1, 0x69), (0x1d4c5, 0x1d4cf, 1, 0x70),
  (0x1d4d0, 0x1d4e9, 1, 0x61), (0x1d4ea, 0x1d503, 1, 0x61), (0x1d504, 0x1d505, 1, 0x61),
  (0x1d507, 0x1d50a, 1, 0x64), (0x1d50d, 0x1d514, 1, 0x6a), (0x1d516, 0x1d51c, 1, 0x73),
  (0x1d51e, 0x1d537, 1, 0x61), (0x1d538, 0x1d539, 1, 0x61), (0x1d53b, 0x1d53e, 1, 0x64),
  (0x1d540, 0x1d544, 1, 0x69), (0x1d54a, 0x1d550, 1, 0x73), (0x1d552, 0x1d56b, 1, 0x61),
  (0x1d56c, 0x1d585, 1, 0x61), (0x1d586, 0x1d59f, 1, 0x61), (0x1d5a0, 0x1d5b9, 1, 0x61),
  (0x1d5ba, 0x1d5d3, 1, 0x61), (0x1d5d4, 0x1d5ed, 1, 0x61), (0x1d5ee, 0x1d607, 1, 0x61),
  (0x1d608, 0x1d621, 1, 0x61), (0x1d622, 0x1d63b, 1, 0x61), (0x1d63c, 0x1d655, 1, 0x61),
  (0x1d656, 0x1d66f, 1, 0x61), (0x1d670, 0x1d689, 1, 0x61), (0x1d68a, 0x1d6a3, 1, 0x61),
  (0x1d6a8, 0x1d6b8, 1, 0x3b1), (0x1d6ba, 0x1d6c0, 1, 0x3c3), (0x1d6c2, 0x1d6d2, 1, 0x3b1),
  (0x1d6d4, 0x1d6da, 1, 0x3c3), (0x1d6e2, 0x1d6f2, 1, 0x3b1), (0x1d6f4, 0x1d6fa, 1, 0x3c3),
  (0x1d6fc, 0x1d70c, 1, 0x3b1), (0x1d70e, 0x1d714, 1, 0x3c3), (0x1d71c, 0x1d72c, 1, 0x3b1),
  (0x1d72e, 0x1d734, 1, 0x3c3), (0x1d736, 0x1d746, 1, 0x3b1), (0x1d748, 0x1d74e, 1, 0x3c3),
  (0x1d756, 0x1d766, 1, 0x3b1), (0x1d768, 0x1d76e, 1, 0x3c3), (0x1d770, 0x1d780, 1, 0x3b1),
  (0x1d782, 0x1d788, 1, 0x3c3), (0x1d790, 0x1d7a0, 1, 0x3b1), (0x1d7a2, 0x1d7a8, 1, 0x3c3),
  (0x1d7aa, 0x1d7ba, 1, 0x3b1), (0x1d7bc, 0x1d7c2, 1, 0x3c3), (0x1d7ce, 0x1d7d7, 1, 0x30),
  (0x1d7d8, 0x1d7e1, 1, 0x30), (0x1d7e2, 0x1d7eb, 1, 0x30), (0x1d7ec, 0x1d7f5, 1, 0x30),
  (0x1d7f6, 0x1d7ff, 1, 0x30), (0x1e030, 0x1e038, 1, 0x430), (0x1e039, 0x1e03b, 1, 0x43a),
  (0x1e03c, 0x1e046, 1, 0x43e), (0x1e048, 0x1e049, 1, 0x44d), (0x1e051, 0x1e059, 1, 0x430),
  (0x1e05a, 0x1e05b, 1, 0x43a), (0x1e05c, 0x1e05d, 1, 0x43e), (0x1e05f, 0x1e064, 1, 0x443),
  (0x1e065, 0x1e066, 1, 0x44a), (0x1e900, 0x1e921, 1, 0x1e922), (0x1ee00, 0x1ee01, 1, 0x627),
  (0x1ee0a, 0x1ee0d, 1, 0x643), (0x1ee15, 0x1ee16, 1, 0x62a), (0x1ee2a, 0x1ee2d, 1, 0x643),
  (0x1ee35, 0x1ee36, 1, 0x62a), (0x1ee4b, 0x1ee4d, 2, 0x644), (0x1ee6a, 0x1ee6c, 2, 0x643),
  (0x1ee75, 0x1ee76, 1, 0x62a), (0x1ee80, 0x1ee81, 1, 0x627), (0x1ee84, 0x1ee85, 1, 0x647),
  (0x1ee8b, 0x1ee8d, 1, 0x644), (0x1ee95, 0x1ee96, 1, 0x62a), (0x1eeab, 0x1eead, 1, 0x644),
  (0x1eeb5, 0x1eeb6, 1, 0x62a), (0x1f130, 0x1f149, 1, 0x61), (0x1fbf0, 0x1fbf9, 1, 0x30),
  (0x2f829, 0x2f82a, 1, 0x5305), (0x2f881, 0x2f882, 1, 0x5de1), (0x2f8f5, 0x2f8f6, 1, 0x6bba),
  (0x2f945, 0x2f946, 1, 0x771e), (0x2f9e8, 0x2f9e9, 1, 0x92d7)]

/-- Characters whose other form has several characters. -/
def expandedForms : List (Nat × List Nat) := [
  (0xa8, [0x20, 0x308]), (0xaf, [0x20, 0x304]), (0xb4, [0x20, 0x301]), (0xb8, [0x20, 0x327]),
  (0xbc, [0x31, 0x2044, 0x34]), (0xbd, [0x31, 0x2044, 0x32]), (0xbe, [0x33, 0x2044, 0x34]),
  (0x130, [0x69, 0x307]), (0x132, [0x69, 0x6a]), (0x133, [0x69, 0x6a]), (0x13f, [0x6c, 0xb7]),
  (0x140, [0x6c, 0xb7]), (0x149, [0x2bc, 0x6e]), (0x1c4, [0x64, 0x17e]), (0x1c5, [0x64, 0x17e]),
  (0x1c6, [0x64, 0x17e]), (0x1c7, [0x6c, 0x6a]), (0x1c8, [0x6c, 0x6a]), (0x1c9, [0x6c, 0x6a]),
  (0x1ca, [0x6e, 0x6a]), (0x1cb, [0x6e, 0x6a]), (0x1cc, [0x6e, 0x6a]), (0x1f1, [0x64, 0x7a]),
  (0x1f2, [0x64, 0x7a]), (0x1f3, [0x64, 0x7a]), (0x2d8, [0x20, 0x306]), (0x2d9, [0x20, 0x307]),
  (0x2da, [0x20, 0x30a]), (0x2db, [0x20, 0x328]), (0x2dc, [0x20, 0x303]), (0x2dd, [0x20, 0x30b]),
  (0x344, [0x308, 0x301]), (0x37a, [0x20, 0x3b9]), (0x384, [0x20, 0x301]),
  (0x385, [0x20, 0x308, 0x301]), (0x587, [0x565, 0x582]), (0x675, [0x627, 0x674]),
  (0x676, [0x648, 0x674]), (0x677, [0x6c7, 0x674]), (0x678, [0x64a, 0x674]),
  (0x958, [0x915, 0x93c]), (0x959, [0x916, 0x93c]), (0x95a, [0x917, 0x93c]),
  (0x95b, [0x91c, 0x93c]), (0x95c, [0x921, 0x93c]), (0x95d, [0x922, 0x93c]),
  (0x95e, [0x92b, 0x93c]), (0x95f, [0x92f, 0x93c]), (0x9dc, [0x9a1, 0x9bc]),
  (0x9dd, [0x9a2, 0x9bc]), (0x9df, [0x9af, 0x9bc]), (0xa33, [0xa32, 0xa3c]),
  (0xa36, [0xa38, 0xa3c]), (0xa59, [0xa16, 0xa3c]), (0xa5a, [0xa17, 0xa3c]),
  (0xa5b, [0xa1c, 0xa3c]), (0xa5e, [0xa2b, 0xa3c]), (0xb5c, [0xb21, 0xb3c]),
  (0xb5d, [0xb22, 0xb3c]), (0xe33, [0xe4d, 0xe32]), (0xeb3, [0xecd, 0xeb2]),
  (0xedc, [0xeab, 0xe99]), (0xedd, [0xeab, 0xea1]), (0xf43, [0xf42, 0xfb7]),
  (0xf4d, [0xf4c, 0xfb7]), (0xf52, [0xf51, 0xfb7]), (0xf57, [0xf56, 0xfb7]),
  (0xf5c, [0xf5b, 0xfb7]), (0xf69, [0xf40, 0xfb5]), (0xf73, [0xf71, 0xf72]),
  (0xf75, [0xf71, 0xf74]), (0xf76, [0xfb2, 0xf80]), (0xf77, [0xfb2, 0xf71, 0xf80]),
  (0xf78, [0xfb3, 0xf80]), (0xf79, [0xfb3, 0xf71, 0xf80]), (0xf81, [0xf71, 0xf80]),
  (0xf93, [0xf92, 0xfb7]), (0xf9d, [0xf9c, 0xfb7]), (0xfa2, [0xfa1, 0xfb7]),
  (0xfa7, [0xfa6, 0xfb7]), (0xfac, [0xfab, 0xfb7]), (0xfb9, [0xf90, 0xfb5]),
  (0x2100, [0x61, 0x2f, 0x63]), (0x2101, [0x61, 0x2f, 0x73]), (0x2103, [0xb0, 0x63]),
  (0x2105, [0x63, 0x2f, 0x6f]), (0x2106, [0x63, 0x2f, 0x75]), (0x2109, [0xb0, 0x66]),
  (0x2116, [0x6e, 0x6f]), (0x2120, [0x73, 0x6d]), (0x2121, [0x74, 0x65, 0x6c]),
  (0x2122, [0x74, 0x6d]), (0x213b, [0x66, 0x61, 0x78]), (0x2150, [0x31, 0x2044, 0x37]),
  (0x2151, [0x31, 0x2044, 0x39]), (0x2152, [0x31, 0x2044, 0x31, 0x30]),
  (0x2153, [0x31, 0x2044, 0x33]), (0x2154, [0x32, 0x2044, 0x33]), (0x2155, [0x31, 0x2044, 0x35]),
  (0x2156, [0x32, 0x2044, 0x35]), (0x2157, [0x33, 0x2044, 0x35]), (0x2158, [0x34, 0x2044, 0x35]),
  (0x2159, [0x31, 0x2044, 0x36]), (0x215a, [0x35, 0x2044, 0x36]), (0x215b, [0x31, 0x2044, 0x38]),
  (0x215c, [0x33, 0x2044, 0x38]), (0x215d, [0x35, 0x2044, 0x38]), (0x215e, [0x37, 0x2044, 0x38]),
  (0x215f, [0x31, 0x2044]), (0x2161, [0x69, 0x69]), (0x2162, [0x69, 0x69, 0x69]),
  (0x2163, [0x69, 0x76]), (0x2165, [0x76, 0x69]), (0x2166, [0x76, 0x69, 0x69]),
  (0x2167, [0x76, 0x69, 0x69, 0x69]), (0x2168, [0x69, 0x78]), (0x216a, [0x78, 0x69]),
  (0x216b, [0x78, 0x69, 0x69]), (0x2171, [0x69, 0x69]), (0x2172, [0x69, 0x69, 0x69]),
  (0x2173, [0x69, 0x76]), (0x2175, [0x76, 0x69]), (0x2176, [0x76, 0x69, 0x69]),
  (0x2177, [0x76, 0x69, 0x69, 0x69]), (0x2178, [0x69, 0x78]), (0x217a, [0x78, 0x69]),
  (0x217b, [0x78, 0x69, 0x69]), (0x2189, [0x30, 0x2044, 0x33]), (0xfb00, [0x66, 0x66]),
  (0xfb01, [0x66, 0x69]), (0xfb02, [0x66, 0x6c]), (0xfb03, [0x66, 0x66, 0x69]),
  (0xfb04, [0x66, 0x66, 0x6c]), (0xfb05, [0x73, 0x74]), (0xfb06, [0x73, 0x74])]

/-- The form of a character outside ASCII in a host name; nothing if it is refused. -/
def nameForm (c : Char) : Option (List Char) :=
  let n := c.toNat
  if Text.onRun refusedRuns n then none
  else if Text.onRun droppedRuns n then some []
  else match expandedForms.find? (·.1 == n) with
    | some (_, form) => some (form.map Char.ofNat)
    | none =>
      match mappedRuns.find? fun (first, last, step, _) =>
          first ≤ n && n ≤ last && (n - first) % step == 0 with
      | some (first, _, _, form) => some [Char.ofNat (form + (n - first))]
      | none => some [c]

end SettingsCheck.Url
