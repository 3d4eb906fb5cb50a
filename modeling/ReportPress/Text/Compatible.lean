/-!
Compatibility forms: characters beyond Latin-1 whose decomposition, without its accents, is written in Latin-1.
Letters with accents, ligatures, circled and full-width forms, mathematical alphabets.
-/

namespace ReportPress.Text

/-- consecutive characters from `first` to `last` that stand for consecutive characters from `target` on -/
structure PlainRun where
  first : Nat
  last : Nat
  target : Nat

/-- runs of characters with consecutive plain forms -/
def plainRuns : List PlainRun :=
  [⟨0x1D33, 0x1D3A, 0x47⟩, ⟨0x2074, 0x2079, 0x34⟩, ⟨0x2080, 0x2089, 0x30⟩, ⟨0x2096, 0x2099, 0x6B⟩,
   ⟨0x2460, 0x2468, 0x31⟩, ⟨0x24B6, 0x24CF, 0x41⟩, ⟨0x24D0, 0x24E9, 0x61⟩, ⟨0xFF01, 0xFF5E, 0x21⟩,
   ⟨0x1D400, 0x1D419, 0x41⟩, ⟨0x1D41A, 0x1D433, 0x61⟩, ⟨0x1D434, 0x1D44D, 0x41⟩, ⟨0x1D44E, 0x1D454, 0x61⟩,
   ⟨0x1D456, 0x1D467, 0x69⟩, ⟨0x1D468, 0x1D481, 0x41⟩, ⟨0x1D482, 0x1D49B, 0x61⟩, ⟨0x1D4A9, 0x1D4AC, 0x4E⟩,
   ⟨0x1D4AE, 0x1D4B5, 0x53⟩, ⟨0x1D4B6, 0x1D4B9, 0x61⟩, ⟨0x1D4BD, 0x1D4C3, 0x68⟩, ⟨0x1D4C5, 0x1D4CF, 0x70⟩,
   ⟨0x1D4D0, 0x1D4E9, 0x41⟩, ⟨0x1D4EA, 0x1D503, 0x61⟩, ⟨0x1D507, 0x1D50A, 0x44⟩, ⟨0x1D50D, 0x1D514, 0x4A⟩,
   ⟨0x1D516, 0x1D51C, 0x53⟩, ⟨0x1D51E, 0x1D537, 0x61⟩, ⟨0x1D53B, 0x1D53E, 0x44⟩, ⟨0x1D540, 0x1D544, 0x49⟩,
   ⟨0x1D54A, 0x1D550, 0x53⟩, ⟨0x1D552, 0x1D56B, 0x61⟩, ⟨0x1D56C, 0x1D585, 0x41⟩, ⟨0x1D586, 0x1D59F, 0x61⟩,
   ⟨0x1D5A0, 0x1D5B9, 0x41⟩, ⟨0x1D5BA, 0x1D5D3, 0x61⟩, ⟨0x1D5D4, 0x1D5ED, 0x41⟩, ⟨0x1D5EE, 0x1D607, 0x61⟩,
   ⟨0x1D608, 0x1D621, 0x41⟩, ⟨0x1D622, 0x1D63B, 0x61⟩, ⟨0x1D63C, 0x1D655, 0x41⟩, ⟨0x1D656, 0x1D66F, 0x61⟩,
   ⟨0x1D670, 0x1D689, 0x41⟩, ⟨0x1D68A, 0x1D6A3, 0x61⟩, ⟨0x1D7CE, 0x1D7D7, 0x30⟩, ⟨0x1D7D8, 0x1D7E1, 0x30⟩,
   ⟨0x1D7E2, 0x1D7EB, 0x30⟩, ⟨0x1D7EC, 0x1D7F5, 0x30⟩, ⟨0x1D7F6, 0x1D7FF, 0x30⟩, ⟨0x1F130, 0x1F149, 0x41⟩,
   ⟨0x1FBF0, 0x1FBF9, 0x30⟩]

/-- plain forms, each with the characters that stand for it -/
def plainForms : List (String × List Nat) :=
  [("A", [0x100, 0x102, 0x104, 0x1CD, 0x1DE, 0x1E0, 0x1FA, 0x200, 0x202, 0x226, 0x1D2C, 0x1E00, 0x1EA0,
    0x1EA2, 0x1EA4, 0x1EA6, 0x1EA8, 0x1EAA, 0x1EAC, 0x1EAE, 0x1EB0, 0x1EB2, 0x1EB4, 0x1EB6, 0x212B,
    0x1D49C, 0x1D504, 0x1D538]),
   ("a", [0x101, 0x103, 0x105, 0x1CE, 0x1DF, 0x1E1, 0x1FB, 0x201, 0x203, 0x227, 0x1D43, 0x1E01, 0x1EA1,
    0x1EA3, 0x1EA5, 0x1EA7, 0x1EA9, 0x1EAB, 0x1EAD, 0x1EAF, 0x1EB1, 0x1EB3, 0x1EB5, 0x1EB7, 0x2090]),
   ("C", [0x106, 0x108, 0x10A, 0x10C, 0x1E08, 0x2102, 0x212D, 0x216D, 0xA7F2, 0x1D49E, 0x1F12B]),
   ("c", [0x107, 0x109, 0x10B, 0x10D, 0x1D9C, 0x1E09, 0x217D]),
   ("D", [0x10E, 0x1D30, 0x1E0A, 0x1E0C, 0x1E0E, 0x1E10, 0x1E12, 0x2145, 0x216E, 0x1D49F]),
   ("d", [0x10F, 0x1D48, 0x1E0B, 0x1E0D, 0x1E0F, 0x1E11, 0x1E13, 0x2146, 0x217E]),
   ("E", [0x112, 0x114, 0x116, 0x118, 0x11A, 0x204, 0x206, 0x228, 0x1D31, 0x1E14, 0x1E16, 0x1E18, 0x1E1A,
    0x1E1C, 0x1EB8, 0x1EBA, 0x1EBC, 0x1EBE, 0x1EC0, 0x1EC2, 0x1EC4, 0x1EC6, 0x2130]),
   ("e", [0x113, 0x115, 0x117, 0x119, 0x11B, 0x205, 0x207, 0x229, 0x1D49, 0x1E15, 0x1E17, 0x1E19, 0x1E1B,
    0x1E1D, 0x1EB9, 0x1EBB, 0x1EBD, 0x1EBF, 0x1EC1, 0x1EC3, 0x1EC5, 0x1EC7, 0x2091, 0x212F, 0x2147]),
   ("G", [0x11C, 0x11E, 0x120, 0x122, 0x1E6, 0x1F4, 0x1E20, 0x1D4A2]),
   ("g", [0x11D, 0x11F, 0x121, 0x123, 0x1E7, 0x1F5, 0x1D4D, 0x1E21, 0x210A]),
   ("H", [0x124, 0x21E, 0x1E22, 0x1E24, 0x1E26, 0x1E28, 0x1E2A, 0x210B, 0x210C, 0x210D]),
   ("h", [0x125, 0x21F, 0x2B0, 0x1E23, 0x1E25, 0x1E27, 0x1E29, 0x1E2B, 0x1E96, 0x2095, 0x210E]),
   ("I", [0x128, 0x12A, 0x12C, 0x12E, 0x130, 0x1CF, 0x208, 0x20A, 0x1E2C, 0x1E2E, 0x1EC8, 0x1ECA, 0x2110,
    0x2111, 0x2160]),
   ("i", [0x129, 0x12B, 0x12D, 0x12F, 0x1D0, 0x209, 0x20B, 0x1D62, 0x1E2D, 0x1E2F, 0x1EC9, 0x1ECB, 0x2071,
    0x2139, 0x2148, 0x2170]),
   ("IJ", [0x132]), ("ij", [0x133]), ("J", [0x134, 0x1D4A5]), ("j", [0x135, 0x1F0, 0x2B2, 0x2149, 0x2C7C]),
   ("K", [0x136, 0x1E8, 0x1E30, 0x1E32, 0x1E34, 0x212A, 0x1D4A6]),
   ("k", [0x137, 0x1E9, 0x1D4F, 0x1E31, 0x1E33, 0x1E35]),
   ("L", [0x139, 0x13B, 0x13D, 0x1E36, 0x1E38, 0x1E3A, 0x1E3C, 0x2112, 0x216C]),
   ("l", [0x13A, 0x13C, 0x13E, 0x2E1, 0x1E37, 0x1E39, 0x1E3B, 0x1E3D, 0x2113, 0x217C]), ("L·", [0x13F]),
   ("l·", [0x140]), ("N", [0x143, 0x145, 0x147, 0x1F8, 0x1E44, 0x1E46, 0x1E48, 0x1E4A, 0x2115]),
   ("n", [0x144, 0x146, 0x148, 0x1F9, 0x1E45, 0x1E47, 0x1E49, 0x1E4B, 0x207F]),
   ("O", [0x14C, 0x14E, 0x150, 0x1A0, 0x1D1, 0x1EA, 0x1EC, 0x20C, 0x20E, 0x22A, 0x22C, 0x22E, 0x230, 0x1D3C,
    0x1E4C, 0x1E4E, 0x1E50, 0x1E52, 0x1ECC, 0x1ECE, 0x1ED0, 0x1ED2, 0x1ED4, 0x1ED6, 0x1ED8, 0x1EDA, 0x1EDC,
    0x1EDE, 0x1EE0, 0x1EE2, 0x1D546]),
   ("o", [0x14D, 0x14F, 0x151, 0x1A1, 0x1D2, 0x1EB, 0x1ED, 0x20D, 0x20F, 0x22B, 0x22D, 0x22F, 0x231, 0x1D52,
    0x1E4D, 0x1E4F, 0x1E51, 0x1E53, 0x1ECD, 0x1ECF, 0x1ED1, 0x1ED3, 0x1ED5, 0x1ED7, 0x1ED9, 0x1EDB, 0x1EDD,
    0x1EDF, 0x1EE1, 0x1EE3, 0x2092, 0x2134]),
   ("R", [0x154, 0x156, 0x158, 0x210, 0x212, 0x1D3F, 0x1E58, 0x1E5A, 0x1E5C, 0x1E5E, 0x211B, 0x211C, 0x211D,
    0x1F12C]),
   ("r", [0x155, 0x157, 0x159, 0x211, 0x213, 0x2B3, 0x1D63, 0x1E59, 0x1E5B, 0x1E5D, 0x1E5F]),
   ("S", [0x15A, 0x15C, 0x15E, 0x160, 0x218, 0x1E60, 0x1E62, 0x1E64, 0x1E66, 0x1E68]),
   ("s", [0x15B, 0x15D, 0x15F, 0x161, 0x17F, 0x219, 0x2E2, 0x1E61, 0x1E63, 0x1E65, 0x1E67, 0x1E69, 0x1E9B,
    0x209B]),
   ("T", [0x162, 0x164, 0x21A, 0x1D40, 0x1E6A, 0x1E6C, 0x1E6E, 0x1E70]),
   ("t", [0x163, 0x165, 0x21B, 0x1D57, 0x1E6B, 0x1E6D, 0x1E6F, 0x1E71, 0x1E97, 0x209C]),
   ("U", [0x168, 0x16A, 0x16C, 0x16E, 0x170, 0x172, 0x1AF, 0x1D3, 0x1D5, 0x1D7, 0x1D9, 0x1DB, 0x214, 0x216,
    0x1D41, 0x1E72, 0x1E74, 0x1E76, 0x1E78, 0x1E7A, 0x1EE4, 0x1EE6, 0x1EE8, 0x1EEA, 0x1EEC, 0x1EEE,
    0x1EF0]),
   ("u", [0x169, 0x16B, 0x16D, 0x16F, 0x171, 0x173, 0x1B0, 0x1D4, 0x1D6, 0x1D8, 0x1DA, 0x1DC, 0x215, 0x217,
    0x1D58, 0x1D64, 0x1E73, 0x1E75, 0x1E77, 0x1E79, 0x1E7B, 0x1EE5, 0x1EE7, 0x1EE9, 0x1EEB, 0x1EED, 0x1EEF,
    0x1EF1]),
   ("W", [0x174, 0x1D42, 0x1E80, 0x1E82, 0x1E84, 0x1E86, 0x1E88]),
   ("w", [0x175, 0x2B7, 0x1E81, 0x1E83, 0x1E85, 0x1E87, 0x1E89, 0x1E98]),
   ("Y", [0x176, 0x178, 0x232, 0x1E8E, 0x1EF2, 0x1EF4, 0x1EF6, 0x1EF8]),
   ("y", [0x177, 0x233, 0x2B8, 0x1E8F, 0x1E99, 0x1EF3, 0x1EF5, 0x1EF7, 0x1EF9]),
   ("Z", [0x179, 0x17B, 0x17D, 0x1E90, 0x1E92, 0x1E94, 0x2124, 0x2128]),
   ("z", [0x17A, 0x17C, 0x17E, 0x1DBB, 0x1E91, 0x1E93, 0x1E95]), ("DZ", [0x1C4, 0x1F1]), ("Dz", [0x1C5, 0x1F2]),
   ("dz", [0x1C6, 0x1F3]), ("LJ", [0x1C7]), ("Lj", [0x1C8]), ("lj", [0x1C9]), ("NJ", [0x1CA]), ("Nj", [0x1CB]),
   ("nj", [0x1CC]), ("Æ", [0x1E2, 0x1FC, 0x1D2D]), ("æ", [0x1E3, 0x1FD, 0x10783]), ("Ø", [0x1FE]),
   ("ø", [0x1FF, 0x107A2]),
   (" ", [0x2D8, 0x2D9, 0x2DA, 0x2DB, 0x2DC, 0x2DD, 0x37A, 0x384, 0x385, 0x1FBD, 0x1FBF, 0x1FC0, 0x1FC1,
    0x1FCD, 0x1FCE, 0x1FCF, 0x1FDD, 0x1FDE, 0x1FDF, 0x1FED, 0x1FEE, 0x1FFD, 0x1FFE, 0x2000, 0x2001, 0x2002,
    0x2003, 0x2004, 0x2005, 0x2006, 0x2007, 0x2008, 0x2009, 0x200A, 0x2017, 0x202F, 0x203E, 0x205F, 0x3000,
    0x309B, 0x309C, 0xFC5E, 0xFC5F, 0xFC60, 0xFC61, 0xFC62, 0xFC63, 0xFE49, 0xFE4A, 0xFE4B, 0xFE4C, 0xFE70,
    0xFE72, 0xFE74, 0xFE76, 0xFE78, 0xFE7A, 0xFE7C, 0xFE7E, 0xFFE3]),
   ("x", [0x2E3, 0x1E8B, 0x1E8D, 0x2093, 0x2179]), (";", [0x37E, 0xFE14, 0xFE54]), ("·", [0x387]),
   ("B", [0x1D2E, 0x1E02, 0x1E04, 0x1E06, 0x212C, 0x1D505, 0x1D539]), ("P", [0x1D3E, 0x1E54, 0x1E56, 0x2119]),
   ("b", [0x1D47, 0x1E03, 0x1E05, 0x1E07]), ("m", [0x1D50, 0x1E3F, 0x1E41, 0x1E43, 0x217F]),
   ("p", [0x1D56, 0x1E55, 0x1E57, 0x209A]), ("v", [0x1D5B, 0x1D65, 0x1E7D, 0x1E7F, 0x2174]), ("ð", [0x1D9E]),
   ("f", [0x1DA0, 0x1E1F, 0x1D4BB]), ("F", [0x1E1E, 0x2131, 0xA7F3]),
   ("M", [0x1E3E, 0x1E40, 0x1E42, 0x2133, 0x216F]), ("V", [0x1E7C, 0x1E7E, 0x2164, 0x2C7D]),
   ("X", [0x1E8A, 0x1E8C, 0x2169]), ("`", [0x1FEF]), (".", [0x2024, 0xFE52]), ("..", [0x2025, 0xFE30]),
   ("...", [0x2026, 0xFE19]), ("!!", [0x203C]), ("??", [0x2047]), ("?!", [0x2048]), ("!?", [0x2049]),
   ("0", [0x2070, 0x24EA]), ("+", [0x207A, 0x208A, 0xFB29, 0xFE62]), ("=", [0x207C, 0x208C, 0x2260, 0xFE66]),
   ("(", [0x207D, 0x208D, 0xFE35, 0xFE59]), (")", [0x207E, 0x208E, 0xFE36, 0xFE5A]), ("Rs", [0x20A8]),
   ("a/c", [0x2100]), ("a/s", [0x2101]), ("°C", [0x2103]), ("c/o", [0x2105]), ("c/u", [0x2106]),
   ("°F", [0x2109]), ("No", [0x2116]), ("Q", [0x211A, 0xA7F4]), ("SM", [0x2120]), ("TEL", [0x2121]),
   ("TM", [0x2122]), ("FAX", [0x213B]), ("II", [0x2161]), ("III", [0x2162]), ("IV", [0x2163]), ("VI", [0x2165]),
   ("VII", [0x2166]), ("VIII", [0x2167]), ("IX", [0x2168]), ("XI", [0x216A]), ("XII", [0x216B]),
   ("ii", [0x2171]), ("iii", [0x2172]), ("iv", [0x2173]), ("vi", [0x2175]), ("vii", [0x2176]),
   ("viii", [0x2177]), ("ix", [0x2178]), ("xi", [0x217A]), ("xii", [0x217B]), ("<", [0x226E, 0xFE64]),
   (">", [0x226F, 0xFE65]), ("10", [0x2469]), ("11", [0x246A]), ("12", [0x246B]), ("13", [0x246C]),
   ("14", [0x246D]), ("15", [0x246E]), ("16", [0x246F]), ("17", [0x2470]), ("18", [0x2471]), ("19", [0x2472]),
   ("20", [0x2473]), ("(1)", [0x2474]), ("(2)", [0x2475]), ("(3)", [0x2476]), ("(4)", [0x2477]),
   ("(5)", [0x2478]), ("(6)", [0x2479]), ("(7)", [0x247A]), ("(8)", [0x247B]), ("(9)", [0x247C]),
   ("(10)", [0x247D]), ("(11)", [0x247E]), ("(12)", [0x247F]), ("(13)", [0x2480]), ("(14)", [0x2481]),
   ("(15)", [0x2482]), ("(16)", [0x2483]), ("(17)", [0x2484]), ("(18)", [0x2485]), ("(19)", [0x2486]),
   ("(20)", [0x2487]), ("1.", [0x2488]), ("2.", [0x2489]), ("3.", [0x248A]), ("4.", [0x248B]), ("5.", [0x248C]),
   ("6.", [0x248D]), ("7.", [0x248E]), ("8.", [0x248F]), ("9.", [0x2490]), ("10.", [0x2491]), ("11.", [0x2492]),
   ("12.", [0x2493]), ("13.", [0x2494]), ("14.", [0x2495]), ("15.", [0x2496]), ("16.", [0x2497]),
   ("17.", [0x2498]), ("18.", [0x2499]), ("19.", [0x249A]), ("20.", [0x249B]), ("(a)", [0x249C]),
   ("(b)", [0x249D]), ("(c)", [0x249E]), ("(d)", [0x249F]), ("(e)", [0x24A0]), ("(f)", [0x24A1]),
   ("(g)", [0x24A2]), ("(h)", [0x24A3]), ("(i)", [0x24A4]), ("(j)", [0x24A5]), ("(k)", [0x24A6]),
   ("(l)", [0x24A7]), ("(m)", [0x24A8]), ("(n)", [0x24A9]), ("(o)", [0x24AA]), ("(p)", [0x24AB]),
   ("(q)", [0x24AC]), ("(r)", [0x24AD]), ("(s)", [0x24AE]), ("(t)", [0x24AF]), ("(u)", [0x24B0]),
   ("(v)", [0x24B1]), ("(w)", [0x24B2]), ("(x)", [0x24B3]), ("(y)", [0x24B4]), ("(z)", [0x24B5]),
   ("::=", [0x2A74]), ("==", [0x2A75]), ("===", [0x2A76]), ("PTE", [0x3250]), ("21", [0x3251]),
   ("22", [0x3252]), ("23", [0x3253]), ("24", [0x3254]), ("25", [0x3255]), ("26", [0x3256]), ("27", [0x3257]),
   ("28", [0x3258]), ("29", [0x3259]), ("30", [0x325A]), ("31", [0x325B]), ("32", [0x325C]), ("33", [0x325D]),
   ("34", [0x325E]), ("35", [0x325F]), ("36", [0x32B1]), ("37", [0x32B2]), ("38", [0x32B3]), ("39", [0x32B4]),
   ("40", [0x32B5]), ("41", [0x32B6]), ("42", [0x32B7]), ("43", [0x32B8]), ("44", [0x32B9]), ("45", [0x32BA]),
   ("46", [0x32BB]), ("47", [0x32BC]), ("48", [0x32BD]), ("49", [0x32BE]), ("50", [0x32BF]), ("Hg", [0x32CC]),
   ("erg", [0x32CD]), ("eV", [0x32CE]), ("LTD", [0x32CF]), ("hPa", [0x3371]), ("da", [0x3372]),
   ("AU", [0x3373]), ("bar", [0x3374]), ("oV", [0x3375]), ("pc", [0x3376]), ("dm", [0x3377]), ("dm2", [0x3378]),
   ("dm3", [0x3379]), ("IU", [0x337A]), ("pA", [0x3380]), ("nA", [0x3381]), ("mA", [0x3383]), ("kA", [0x3384]),
   ("KB", [0x3385]), ("MB", [0x3386]), ("GB", [0x3387]), ("cal", [0x3388]), ("kcal", [0x3389]),
   ("pF", [0x338A]), ("nF", [0x338B]), ("mg", [0x338E]), ("kg", [0x338F]), ("Hz", [0x3390]), ("kHz", [0x3391]),
   ("MHz", [0x3392]), ("GHz", [0x3393]), ("THz", [0x3394]), ("ml", [0x3396]), ("dl", [0x3397]),
   ("kl", [0x3398]), ("fm", [0x3399]), ("nm", [0x339A]), ("mm", [0x339C]), ("cm", [0x339D]), ("km", [0x339E]),
   ("mm2", [0x339F]), ("cm2", [0x33A0]), ("m2", [0x33A1]), ("km2", [0x33A2]), ("mm3", [0x33A3]),
   ("cm3", [0x33A4]), ("m3", [0x33A5]), ("km3", [0x33A6]), ("Pa", [0x33A9]), ("kPa", [0x33AA]),
   ("MPa", [0x33AB]), ("GPa", [0x33AC]), ("rad", [0x33AD]), ("ps", [0x33B0]), ("ns", [0x33B1]),
   ("ms", [0x33B3]), ("pV", [0x33B4]), ("nV", [0x33B5]), ("mV", [0x33B7]), ("kV", [0x33B8]),
   ("MV", [0x33B9, 0x1F14B]), ("pW", [0x33BA]), ("nW", [0x33BB]), ("mW", [0x33BD]), ("kW", [0x33BE]),
   ("MW", [0x33BF]), ("a.m.", [0x33C2]), ("Bq", [0x33C3]), ("cc", [0x33C4]), ("cd", [0x33C5]),
   ("Co.", [0x33C7]), ("dB", [0x33C8]), ("Gy", [0x33C9]), ("ha", [0x33CA]), ("HP", [0x33CB]), ("in", [0x33CC]),
   ("KK", [0x33CD]), ("KM", [0x33CE]), ("kt", [0x33CF]), ("lm", [0x33D0]), ("ln", [0x33D1]), ("log", [0x33D2]),
   ("lx", [0x33D3]), ("mb", [0x33D4]), ("mil", [0x33D5]), ("mol", [0x33D6]), ("PH", [0x33D7]),
   ("p.m.", [0x33D8]), ("PPM", [0x33D9]), ("PR", [0x33DA]), ("sr", [0x33DB]), ("Sv", [0x33DC]),
   ("Wb", [0x33DD]), ("gal", [0x33FF]), ("ff", [0xFB00]), ("fi", [0xFB01]), ("fl", [0xFB02]), ("ffi", [0xFB03]),
   ("ffl", [0xFB04]), ("st", [0xFB05, 0xFB06]), (",", [0xFE10, 0xFE50]), (":", [0xFE13, 0xFE55]),
   ("!", [0xFE15, 0xFE57]), ("?", [0xFE16, 0xFE56]), ("_", [0xFE33, 0xFE34, 0xFE4D, 0xFE4E, 0xFE4F]),
   ("\x7b", [0xFE37, 0xFE5B]), ("\x7d", [0xFE38, 0xFE5C]), ("[", [0xFE47]), ("]", [0xFE48]), ("#", [0xFE5F]),
   ("&", [0xFE60]), ("*", [0xFE61]), ("-", [0xFE63]), ("\\", [0xFE68]), ("$", [0xFE69]), ("%", [0xFE6A]),
   ("@", [0xFE6B]), ("¢", [0xFFE0]), ("£", [0xFFE1]), ("¬", [0xFFE2]), ("¦", [0xFFE4]), ("¥", [0xFFE5]),
   ("q", [0x107A5]), ("0.", [0x1F100]), ("0,", [0x1F101]), ("1,", [0x1F102]), ("2,", [0x1F103]),
   ("3,", [0x1F104]), ("4,", [0x1F105]), ("5,", [0x1F106]), ("6,", [0x1F107]), ("7,", [0x1F108]),
   ("8,", [0x1F109]), ("9,", [0x1F10A]), ("(A)", [0x1F110]), ("(B)", [0x1F111]), ("(C)", [0x1F112]),
   ("(D)", [0x1F113]), ("(E)", [0x1F114]), ("(F)", [0x1F115]), ("(G)", [0x1F116]), ("(H)", [0x1F117]),
   ("(I)", [0x1F118]), ("(J)", [0x1F119]), ("(K)", [0x1F11A]), ("(L)", [0x1F11B]), ("(M)", [0x1F11C]),
   ("(N)", [0x1F11D]), ("(O)", [0x1F11E]), ("(P)", [0x1F11F]), ("(Q)", [0x1F120]), ("(R)", [0x1F121]),
   ("(S)", [0x1F122]), ("(T)", [0x1F123]), ("(U)", [0x1F124]), ("(V)", [0x1F125]), ("(W)", [0x1F126]),
   ("(X)", [0x1F127]), ("(Y)", [0x1F128]), ("(Z)", [0x1F129]), ("CD", [0x1F12D]), ("WZ", [0x1F12E]),
   ("HV", [0x1F14A]), ("SD", [0x1F14C]), ("SS", [0x1F14D]), ("PPV", [0x1F14E]), ("WC", [0x1F14F]),
   ("MC", [0x1F16A]), ("MD", [0x1F16B]), ("MR", [0x1F16C]), ("DJ", [0x1F190])]

/-- the plain form of a character beyond Latin-1, if it has one -/
def plainForm? (c : Char) : Option (List Char) :=
  match plainRuns.find? (fun r => r.first ≤ c.toNat && c.toNat ≤ r.last) with
  | some r => some [Char.ofNat (r.target + (c.toNat - r.first))]
  | none => (plainForms.find? fun p => p.2.contains c.toNat).map fun p => p.1.toList

end ReportPress.Text
