import LiveMarkup.Unicode.Script

/-!
The scripts that a character is used with. Most characters are used with their own script alone;
the others are listed here.
-/

namespace LiveMarkup.Unicode

/-- From the first code point to the second, characters are used with the scripts whose four
letters follow. -/
def sharedRuns : List (Nat × Nat × String) := [
  (0xB7, 0xB7, "Avst Cari Copt Dupl Elba Geor Glag Gong Goth Grek Hani Latn Lydi Mahj Perm Shaw"),
  (0x2BC, 0x2BC, "Beng Cyrl Deva Latn Lisu Thai Toto"),
  (0x2C7, 0x2C7, "Bopo Latn"),
  (0x2C9, 0x2CB, "Bopo Latn"),
  (0x2CD, 0x2CD, "Latn Lisu"),
  (0x2D7, 0x2D7, "Latn Thai"),
  (0x2D9, 0x2D9, "Bopo Latn"),
  (0x300, 0x300, "Cher Copt Cyrl Grek Latn Perm Sunu Tale"),
  (0x301, 0x301, "Cher Cyrl Grek Latn Osge Sunu Tale Todr"),
  (0x302, 0x302, "Cher Cyrl Latn Tfng"),
  (0x303, 0x303, "Glag Latn Sunu Syrc Thai"),
  (0x304, 0x304, "Aghb Cher Copt Cyrl Goth Grek Latn Osge Syrc Tfng Todr"),
  (0x305, 0x305, "Copt Elba Glag Goth Kana Latn"),
  (0x306, 0x306, "Cyrl Grek Latn Perm Tfng"),
  (0x307, 0x307, "Copt Dupl Hebr Latn Perm Syrc Tale Tfng Todr"),
  (0x308, 0x308, "Armn Cyrl Dupl Goth Grek Hebr Latn Perm Syrc Tale Tfng"),
  (0x309, 0x309, "Latn Tfng"),
  (0x30A, 0x30A, "Dupl Latn Syrc"),
  (0x30B, 0x30B, "Cher Cyrl Latn Osge"),
  (0x30C, 0x30C, "Cher Latn Tale"),
  (0x30D, 0x30D, "Latn Sunu"),
  (0x30E, 0x30E, "Ethi Latn"),
  (0x310, 0x310, "Latn Sunu"),
  (0x311, 0x311, "Cyrl Latn Todr"),
  (0x313, 0x313, "Grek Latn Perm Todr"),
  (0x323, 0x323, "Cher Dupl Kana Latn Syrc Tfng"),
  (0x324, 0x324, "Cher Dupl Latn Syrc"),
  (0x325, 0x325, "Latn Syrc"),
  (0x32D, 0x32D, "Latn Sunu Syrc"),
  (0x32E, 0x32E, "Latn Syrc"),
  (0x330, 0x330, "Cher Latn Syrc"),
  (0x331, 0x331, "Aghb Cher Goth Latn Sunu Syrc Thai"),
  (0x342, 0x342, "Grek"),
  (0x345, 0x345, "Grek"),
  (0x358, 0x358, "Latn Osge"),
  (0x35E, 0x35E, "Aghb Latn Todr"),
  (0x363, 0x36F, "Latn"),
  (0x374, 0x375, "Copt Grek"),
  (0x483, 0x483, "Cyrl Perm"),
  (0x484, 0x484, "Cyrl Glag"),
  (0x485, 0x486, "Cyrl Latn"),
  (0x487, 0x487, "Cyrl Glag"),
  (0x589, 0x589, "Armn Geor Glag"),
  (0x60C, 0x60C, "Arab Gara Nkoo Rohg Syrc Thaa Yezi"),
  (0x61B, 0x61B, "Arab Gara Nkoo Rohg Syrc Thaa Yezi"),
  (0x61C, 0x61C, "Arab Syrc Thaa"),
  (0x61F, 0x61F, "Adlm Arab Gara Nkoo Rohg Syrc Thaa Yezi"),
  (0x640, 0x640, "Adlm Arab Mand Mani Ougr Phlp Rohg Sogd Syrc"),
  (0x64B, 0x655, "Arab Syrc"),
  (0x660, 0x669, "Arab Thaa Yezi"),
  (0x670, 0x670, "Arab Syrc"),
  (0x6D4, 0x6D4, "Arab Rohg"),
  (0x951, 0x951, "Beng Deva Gran Gujr Guru Knda Latn Mlym Nand Newa Orya Shrd Taml Telu Tirh"),
  (0x952, 0x952, "Beng Deva Gran Gujr Guru Knda Latn Mlym Newa Orya Taml Telu Tirh"),
  (0x964, 0x964,
    "Beng Deva Dogr Gong Gonm Gran Gujr Guru Knda Mahj Mlym Nand Onao Orya Sind Sinh " ++
    "Sylo Takr Taml Telu Tirh"),
  (0x965, 0x965,
    "Beng Deva Dogr Gong Gonm Gran Gujr Gukh Guru Knda Limb Mahj Mlym Nand Onao Orya " ++
    "Sind Sinh Sylo Takr Taml Telu Tirh"),
  (0x966, 0x96F, "Deva Dogr Kthi Mahj"),
  (0x9E6, 0x9EF, "Beng Cakm Sylo"),
  (0xA66, 0xA6F, "Guru Mult"),
  (0xAE6, 0xAEF, "Gujr Khoj"),
  (0xBE6, 0xBF3, "Gran Taml"),
  (0xCE6, 0xCEF, "Knda Nand Tutg"),
  (0x1040, 0x1049, "Cakm Mymr Tale"),
  (0x10FB, 0x10FB, "Geor Glag Latn"),
  (0x16EB, 0x16ED, "Runr"),
  (0x1735, 0x1736, "Buhd Hano Tagb Tglg"),
  (0x1802, 0x1803, "Mong Phag"),
  (0x1805, 0x1805, "Mong Phag"),
  (0x1CD0, 0x1CD0, "Beng Deva Gran Knda"),
  (0x1CD1, 0x1CD1, "Deva"),
  (0x1CD2, 0x1CD2, "Beng Deva Gran Knda"),
  (0x1CD3, 0x1CD3, "Deva Gran Knda"),
  (0x1CD4, 0x1CD4, "Deva"),
  (0x1CD5, 0x1CD5, "Beng Deva Newa Telu Tirh"),
  (0x1CD6, 0x1CD6, "Beng Deva Telu"),
  (0x1CD7, 0x1CD7, "Deva Newa Shrd"),
  (0x1CD8, 0x1CD8, "Beng Deva Newa Telu"),
  (0x1CD9, 0x1CD9, "Deva Shrd"),
  (0x1CDA, 0x1CDA, "Deva Knda Mlym Orya Taml Telu"),
  (0x1CDB, 0x1CDB, "Deva"),
  (0x1CDC, 0x1CDD, "Deva Shrd"),
  (0x1CDE, 0x1CDF, "Deva"),
  (0x1CE0, 0x1CE0, "Deva Shrd"),
  (0x1CE1, 0x1CE1, "Beng Deva"),
  (0x1CE2, 0x1CE2, "Deva Newa Tirh"),
  (0x1CE3, 0x1CE8, "Deva"),
  (0x1CE9, 0x1CE9, "Deva Nand Newa"),
  (0x1CEA, 0x1CEA, "Beng Deva Shrd"),
  (0x1CEB, 0x1CEB, "Deva Newa"),
  (0x1CEC, 0x1CEC, "Deva"),
  (0x1CED, 0x1CED, "Beng Deva Newa Shrd"),
  (0x1CEE, 0x1CF1, "Deva"),
  (0x1CF2, 0x1CF2, "Beng Deva Gran Knda Mlym Nand Orya Sinh Telu Tirh Tutg"),
  (0x1CF3, 0x1CF3, "Deva Gran"),
  (0x1CF4, 0x1CF4, "Deva Gran Knda Tutg"),
  (0x1CF5, 0x1CF6, "Beng Deva"),
  (0x1CF7, 0x1CF7, "Beng"),
  (0x1CF8, 0x1CF9, "Deva Gran"),
  (0x1CFA, 0x1CFA, "Nand"),
  (0x1DC0, 0x1DC1, "Grek"),
  (0x1DF8, 0x1DF8, "Cyrl Latn Syrc"),
  (0x1DFA, 0x1DFA, "Syrc"),
  (0x202F, 0x202F, "Latn Mong Phag"),
  (0x204F, 0x204F, "Adlm Arab"),
  (0x205A, 0x205A, "Cari Geor Glag Hung Lyci Orkh"),
  (0x205D, 0x205D, "Cari Grek Hung Mero"),
  (0x20F0, 0x20F0, "Deva Gran Latn"),
  (0x2E17, 0x2E17, "Copt Latn"),
  (0x2E30, 0x2E30, "Avst Orkh"),
  (0x2E31, 0x2E31, "Avst Cari Geor Hung Kthi Lydi Samr"),
  (0x2E3C, 0x2E3C, "Dupl"),
  (0x2E41, 0x2E41, "Adlm Arab Hung"),
  (0x2E43, 0x2E43, "Cyrl Glag"),
  (0x2FF0, 0x2FFF, "Hani Tang"),
  (0x3001, 0x3001, "Bopo Hang Hani Hira Kana Mong Yiii"),
  (0x3002, 0x3002, "Bopo Hang Hani Hira Kana Mong Phag Yiii"),
  (0x3003, 0x3003, "Bopo Hang Hani Hira Kana"),
  (0x3006, 0x3006, "Hani"),
  (0x3008, 0x3009, "Bopo Hang Hani Hira Kana Mong Tibt Yiii"),
  (0x300A, 0x300B, "Bopo Hang Hani Hira Kana Lisu Mong Tibt Yiii"),
  (0x300C, 0x3011, "Bopo Hang Hani Hira Kana Yiii"),
  (0x3013, 0x3013, "Bopo Hang Hani Hira Kana"),
  (0x3014, 0x301B, "Bopo Hang Hani Hira Kana Yiii"),
  (0x301C, 0x301F, "Bopo Hang Hani Hira Kana"),
  (0x302A, 0x302D, "Bopo Hani"),
  (0x3030, 0x3030, "Bopo Hang Hani Hira Kana"),
  (0x3031, 0x3035, "Hira Kana"),
  (0x3037, 0x3037, "Bopo Hang Hani Hira Kana"),
  (0x303C, 0x303D, "Hani Hira Kana"),
  (0x303E, 0x303F, "Hani"),
  (0x3099, 0x309C, "Hira Kana"),
  (0x30A0, 0x30A0, "Hira Kana"),
  (0x30FB, 0x30FB, "Bopo Hang Hani Hira Kana Yiii"),
  (0x30FC, 0x30FC, "Hira Kana"),
  (0x3190, 0x319F, "Hani"),
  (0x31C0, 0x31E5, "Hani"),
  (0x31EF, 0x31EF, "Hani Tang"),
  (0x3220, 0x3247, "Hani"),
  (0x3280, 0x32B0, "Hani"),
  (0x32C0, 0x32CB, "Hani"),
  (0x32FF, 0x32FF, "Hani"),
  (0x3358, 0x3370, "Hani"),
  (0x337B, 0x337F, "Hani"),
  (0x33E0, 0x33FE, "Hani"),
  (0xA66F, 0xA66F, "Cyrl Glag"),
  (0xA700, 0xA707, "Hani Latn"),
  (0xA830, 0xA832,
    "Deva Dogr Gujr Guru Khoj Knda Kthi Mahj Mlym Modi Nand Shrd Sind Takr Tirh Tutg"),
  (0xA833, 0xA835, "Deva Dogr Gujr Guru Khoj Knda Kthi Mahj Modi Nand Shrd Sind Takr Tirh Tutg"),
  (0xA836, 0xA837, "Deva Dogr Gujr Guru Khoj Kthi Mahj Modi Sind Takr Tirh"),
  (0xA838, 0xA838, "Deva Dogr Gujr Guru Khoj Kthi Mahj Modi Shrd Sind Takr Tirh"),
  (0xA839, 0xA839, "Deva Dogr Gujr Guru Khoj Kthi Mahj Modi Sind Takr Tirh"),
  (0xA8F1, 0xA8F1, "Beng Deva Tutg"),
  (0xA8F3, 0xA8F3, "Deva Taml"),
  (0xA92E, 0xA92E, "Kali Latn Mymr"),
  (0xA9CF, 0xA9CF, "Bugi Java"),
  (0xFD3E, 0xFD3F, "Arab Nkoo"),
  (0xFDF2, 0xFDF2, "Arab Thaa"),
  (0xFDFD, 0xFDFD, "Arab Thaa"),
  (0xFE45, 0xFE46, "Bopo Hang Hani Hira Kana"),
  (0xFF61, 0xFF65, "Bopo Hang Hani Hira Kana Yiii"),
  (0xFF70, 0xFF70, "Hira Kana"),
  (0xFF9E, 0xFF9F, "Hira Kana"),
  (0x10100, 0x10101, "Cpmn Cprt Linb"),
  (0x10102, 0x10102, "Cprt Linb"),
  (0x10107, 0x10133, "Cprt Lina Linb"),
  (0x10137, 0x1013F, "Cprt Linb"),
  (0x102E0, 0x102FB, "Arab Copt"),
  (0x10AF2, 0x10AF2, "Mani Ougr"),
  (0x11301, 0x11301, "Gran Taml"),
  (0x11303, 0x11303, "Gran Taml"),
  (0x1133B, 0x1133C, "Gran Taml"),
  (0x11FD0, 0x11FD1, "Gran Taml"),
  (0x11FD3, 0x11FD3, "Gran Taml"),
  (0x1BCA0, 0x1BCA3, "Dupl"),
  (0x1D360, 0x1D371, "Hani"),
  (0x1F250, 0x1F251, "Hani")]

/-- The runs of shared characters, with and without those of one script. -/
def sharedWith (code : Text) : CharSet :=
  .ofRuns ((sharedRuns.filter fun (_, _, codes) =>
    Text.occursIn code codes.toList).map fun (first, last, _) => (first, last + 1))

def shared : CharSet :=
  .ofRuns (sharedRuns.map fun (first, last, _) => (first, last + 1))

/-- The characters that are used with the script of a name. -/
def scriptExtensions? (name : Text) : Option CharSet :=
  (scriptCode? name).map fun code => (inScript code \ shared) ∪ sharedWith code

end LiveMarkup.Unicode
