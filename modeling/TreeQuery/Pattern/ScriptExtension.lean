import TreeQuery.Pattern.Script

/-!
# Script extensions

Some characters are used with several scripts, whatever the one script is to which the standard
assigns them. By its script extensions a character belongs to each of those scripts; any other
character belongs to its own script alone.
-/

namespace TreeQuery.Pattern.ScriptExtension

/-- The characters that are used with given scripts, which are named by their short names. -/
def shared : List (List String × CharSet) :=
  [(["avst", "cari", "copt", "dupl", "elba", "geor", "glag", "gong", "goth", "grek", "han",
     "latn", "lydi", "mahj", "perm", "shaw"], [(0xB7, 0xB7)]),
   (["beng", "cyrl", "deva", "latn", "lisu", "thai", "toto"], [(0x2BC, 0x2BC)]),
   (["bopo", "latn"], [(0x2C7, 0x2C7), (0x2C9, 0x2CB), (0x2D9, 0x2D9)]),
   (["latn", "lisu"], [(0x2CD, 0x2CD)]),
   (["latn", "thai"], [(0x2D7, 0x2D7)]),
   (["cher", "copt", "cyrl", "grek", "latn", "perm", "sunu", "tale"], [(0x300, 0x300)]),
   (["cher", "cyrl", "grek", "latn", "osge", "sunu", "tale", "todr"], [(0x301, 0x301)]),
   (["cher", "cyrl", "latn", "tfng"], [(0x302, 0x302)]),
   (["glag", "latn", "sunu", "syrc", "thai"], [(0x303, 0x303)]),
   (["aghb", "cher", "copt", "cyrl", "goth", "grek", "latn", "osge", "syrc", "tfng", "todr"],
     [(0x304, 0x304)]),
   (["copt", "elba", "glag", "goth", "kana", "latn"], [(0x305, 0x305)]),
   (["cyrl", "grek", "latn", "perm"], [(0x306, 0x306)]),
   (["copt", "dupl", "hebr", "latn", "perm", "syrc", "tale", "tfng", "todr"], [(0x307, 0x307)]),
   (["armn", "cyrl", "dupl", "goth", "grek", "hebr", "latn", "perm", "syrc", "tale"],
     [(0x308, 0x308)]),
   (["latn", "tfng"], [(0x309, 0x309)]),
   (["dupl", "latn", "syrc"], [(0x30A, 0x30A)]),
   (["cher", "cyrl", "latn", "osge"], [(0x30B, 0x30B)]),
   (["cher", "latn", "tale"], [(0x30C, 0x30C)]),
   (["latn", "sunu"], [(0x30D, 0x30D), (0x310, 0x310)]),
   (["ethi", "latn"], [(0x30E, 0x30E)]),
   (["cyrl", "latn", "todr"], [(0x311, 0x311)]),
   (["grek", "latn", "perm", "todr"], [(0x313, 0x313)]),
   (["latn", "syrc"], [(0x320, 0x320), (0x325, 0x325), (0x32E, 0x32E)]),
   (["cher", "dupl", "kana", "latn", "syrc"], [(0x323, 0x323)]),
   (["cher", "dupl", "latn", "syrc"], [(0x324, 0x324)]),
   (["latn", "sunu", "syrc"], [(0x32D, 0x32D)]),
   (["cher", "latn", "syrc"], [(0x330, 0x330)]),
   (["aghb", "cher", "goth", "latn", "sunu", "thai"], [(0x331, 0x331)]),
   (["grek"], [(0x342, 0x342), (0x345, 0x345), (0x1DC0, 0x1DC1)]),
   (["latn", "osge"], [(0x358, 0x358)]),
   (["aghb", "latn", "todr"], [(0x35E, 0x35E)]),
   (["latn"], [(0x363, 0x36F)]),
   (["copt", "grek"], [(0x374, 0x375)]),
   (["cyrl", "perm"], [(0x483, 0x483)]),
   (["cyrl", "glag"], [(0x484, 0x484), (0x487, 0x487), (0x2E43, 0x2E43), (0xA66F, 0xA66F)]),
   (["cyrl", "latn"], [(0x485, 0x486)]),
   (["armn", "geor", "glag"], [(0x589, 0x589)]),
   (["arab", "gara", "nko", "rohg", "syrc", "thaa", "yezi"], [(0x60C, 0x60C), (0x61B, 0x61B)]),
   (["arab", "syrc", "thaa"], [(0x61C, 0x61C)]),
   (["adlm", "arab", "gara", "nko", "rohg", "syrc", "thaa", "yezi"], [(0x61F, 0x61F)]),
   (["adlm", "arab", "mand", "mani", "ougr", "phlp", "rohg", "sogd", "syrc"], [(0x640, 0x640)]),
   (["arab", "syrc"], [(0x64B, 0x655), (0x670, 0x670)]),
   (["arab", "thaa", "yezi"], [(0x660, 0x669)]),
   (["arab", "rohg"], [(0x6D4, 0x6D4)]),
   (["beng", "deva", "gran", "gujr", "guru", "knda", "latn", "mlym", "orya", "shrd", "taml",
     "telu", "tirh"], [(0x951, 0x951)]),
   (["beng", "deva", "gran", "gujr", "guru", "knda", "latn", "mlym", "orya", "taml", "telu",
     "tirh"], [(0x952, 0x952)]),
   (["beng", "deva", "dogr", "gong", "gonm", "gran", "gujr", "guru", "knda", "mahj", "mlym",
     "nand", "onao", "orya", "sind", "sinh", "sylo", "takr", "taml", "telu", "tirh"],
     [(0x964, 0x964)]),
   (["beng", "deva", "dogr", "gong", "gonm", "gran", "gujr", "gukh", "guru", "knda", "limb",
     "mahj", "mlym", "nand", "onao", "orya", "sind", "sinh", "sylo", "takr", "taml", "telu",
     "tirh"], [(0x965, 0x965)]),
   (["deva", "dogr", "kthi", "mahj"], [(0x966, 0x96F)]),
   (["beng", "cakm", "sylo"], [(0x9E6, 0x9EF)]),
   (["guru", "mult"], [(0xA66, 0xA6F)]),
   (["gujr", "khoj"], [(0xAE6, 0xAEF)]),
   (["gran", "taml"], [(0xBE6, 0xBF3), (0x11301, 0x11301), (0x11303, 0x11303),
     (0x1133B, 0x1133C), (0x11FD0, 0x11FD1), (0x11FD3, 0x11FD3)]),
   (["knda", "nand", "tutg"], [(0xCE6, 0xCEF)]),
   (["cakm", "mymr", "tale"], [(0x1040, 0x1049)]),
   (["geor", "glag", "latn"], [(0x10FB, 0x10FB)]),
   (["runr"], [(0x16EB, 0x16ED)]),
   (["buhd", "hano", "tagb", "tglg"], [(0x1735, 0x1736)]),
   (["mong", "phag"], [(0x1802, 0x1803), (0x1805, 0x1805)]),
   (["beng", "deva", "gran", "knda"], [(0x1CD0, 0x1CD0), (0x1CD2, 0x1CD2)]),
   (["deva"], [(0x1CD1, 0x1CD1), (0x1CD4, 0x1CD4), (0x1CDB, 0x1CDB), (0x1CDE, 0x1CDF),
     (0x1CE2, 0x1CE8), (0x1CEB, 0x1CEC), (0x1CEE, 0x1CF1)]),
   (["deva", "gran", "knda"], [(0x1CD3, 0x1CD3)]),
   (["beng", "deva"], [(0x1CD5, 0x1CD6), (0x1CD8, 0x1CD8), (0x1CE1, 0x1CE1), (0x1CEA, 0x1CEA),
     (0x1CED, 0x1CED), (0x1CF5, 0x1CF6)]),
   (["deva", "shrd"], [(0x1CD7, 0x1CD7), (0x1CD9, 0x1CD9), (0x1CDC, 0x1CDD), (0x1CE0, 0x1CE0)]),
   (["deva", "knda", "mlym", "orya", "taml", "telu"], [(0x1CDA, 0x1CDA)]),
   (["deva", "nand"], [(0x1CE9, 0x1CE9)]),
   (["beng", "deva", "gran", "knda", "mlym", "nand", "orya", "sinh", "telu", "tirh", "tutg"],
     [(0x1CF2, 0x1CF2)]),
   (["deva", "gran"], [(0x1CF3, 0x1CF3), (0x1CF8, 0x1CF9)]),
   (["deva", "gran", "knda", "tutg"], [(0x1CF4, 0x1CF4)]),
   (["beng"], [(0x1CF7, 0x1CF7)]),
   (["nand"], [(0x1CFA, 0x1CFA)]),
   (["cyrl", "latn", "syrc"], [(0x1DF8, 0x1DF8)]),
   (["syrc"], [(0x1DFA, 0x1DFA)]),
   (["latn", "mong", "phag"], [(0x202F, 0x202F)]),
   (["adlm", "arab"], [(0x204F, 0x204F)]),
   (["cari", "geor", "glag", "hung", "lyci", "orkh"], [(0x205A, 0x205A)]),
   (["cari", "grek", "hung", "mero"], [(0x205D, 0x205D)]),
   (["deva", "gran", "latn"], [(0x20F0, 0x20F0)]),
   (["copt", "latn"], [(0x2E17, 0x2E17)]),
   (["avst", "orkh"], [(0x2E30, 0x2E30)]),
   (["avst", "cari", "geor", "hung", "kthi", "lydi", "samr"], [(0x2E31, 0x2E31)]),
   (["dupl"], [(0x2E3C, 0x2E3C), (0x1BCA0, 0x1BCA3)]),
   (["adlm", "arab", "hung"], [(0x2E41, 0x2E41)]),
   (["han", "tang"], [(0x2FF0, 0x2FFF), (0x31EF, 0x31EF)]),
   (["bopo", "han", "hang", "hira", "kana", "mong", "yi"], [(0x3001, 0x3001)]),
   (["bopo", "han", "hang", "hira", "kana", "mong", "phag", "yi"], [(0x3002, 0x3002)]),
   (["bopo", "han", "hang", "hira", "kana"], [(0x3003, 0x3003), (0x3013, 0x3013),
     (0x301C, 0x301F), (0x3030, 0x3030), (0x3037, 0x3037), (0xFE45, 0xFE46)]),
   (["han"], [(0x3006, 0x3006), (0x303E, 0x303F), (0x3190, 0x319F), (0x31C0, 0x31E5),
     (0x3220, 0x3247), (0x3280, 0x32B0), (0x32C0, 0x32CB), (0x32FF, 0x32FF), (0x3358, 0x3370),
     (0x337B, 0x337F), (0x33E0, 0x33FE), (0x1D360, 0x1D371), (0x1F250, 0x1F251)]),
   (["bopo", "han", "hang", "hira", "kana", "mong", "tibt", "yi"], [(0x3008, 0x3009)]),
   (["bopo", "han", "hang", "hira", "kana", "lisu", "mong", "tibt", "yi"], [(0x300A, 0x300B)]),
   (["bopo", "han", "hang", "hira", "kana", "yi"], [(0x300C, 0x3011), (0x3014, 0x301B),
     (0x30FB, 0x30FB), (0xFF61, 0xFF65)]),
   (["bopo", "han"], [(0x302A, 0x302D)]),
   (["hira", "kana"], [(0x3031, 0x3035), (0x3099, 0x309C), (0x30A0, 0x30A0), (0x30FC, 0x30FC),
     (0xFF70, 0xFF70), (0xFF9E, 0xFF9F)]),
   (["han", "hira", "kana"], [(0x303C, 0x303D)]),
   (["han", "latn"], [(0xA700, 0xA707)]),
   (["deva", "dogr", "gujr", "guru", "khoj", "knda", "kthi", "mahj", "mlym", "modi", "nand",
     "shrd", "sind", "takr", "tirh", "tutg"], [(0xA830, 0xA832)]),
   (["deva", "dogr", "gujr", "guru", "khoj", "knda", "kthi", "mahj", "modi", "nand", "shrd",
     "sind", "takr", "tirh", "tutg"], [(0xA833, 0xA835)]),
   (["deva", "dogr", "gujr", "guru", "khoj", "kthi", "mahj", "modi", "sind", "takr", "tirh"],
     [(0xA836, 0xA837), (0xA839, 0xA839)]),
   (["deva", "dogr", "gujr", "guru", "khoj", "kthi", "mahj", "modi", "shrd", "sind", "takr",
     "tirh"], [(0xA838, 0xA838)]),
   (["beng", "deva", "tutg"], [(0xA8F1, 0xA8F1)]),
   (["deva", "taml"], [(0xA8F3, 0xA8F3)]),
   (["kali", "latn", "mymr"], [(0xA92E, 0xA92E)]),
   (["bugi", "java"], [(0xA9CF, 0xA9CF)]),
   (["arab", "nko"], [(0xFD3E, 0xFD3F)]),
   (["arab", "thaa"], [(0xFDF2, 0xFDF2), (0xFDFD, 0xFDFD)]),
   (["cpmn", "cprt", "linb"], [(0x10100, 0x10101)]),
   (["cprt", "linb"], [(0x10102, 0x10102), (0x10137, 0x1013F)]),
   (["cprt", "lina", "linb"], [(0x10107, 0x10133)]),
   (["arab", "copt"], [(0x102E0, 0x102FB)]),
   (["mani", "ougr"], [(0x10AF2, 0x10AF2)])]

/-- The characters that the table of shared characters lists. -/
def listed : CharSet := CharSet.ofRanges (shared.flatMap Prod.snd)

/-- The characters used with a script, given its names and its own characters. -/
def ofScript (names : List String) (own : CharSet) : CharSet :=
  CharSet.union (CharSet.difference own listed)
    (CharSet.ofRanges <| shared.flatMap fun entry =>
      if entry.1.any names.contains then entry.2 else [])

end TreeQuery.Pattern.ScriptExtension
