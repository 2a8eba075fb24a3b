import JsonSchema.Unicode.Run

/-! # Characters of several scripts

Characters that are shared by a few scripts, under the code of each script that uses them without owning them.
-/

namespace JsonSchema.Unicode

/-- The characters that a script shares with others. -/
def sharedCharacters : List NamedSet :=
  [⟨["adlm"], runs "61F 640 204F 2E41"⟩,
   ⟨["aghb"], runs "304 331 35E"⟩,
   ⟨["arab"], runs "60C 61B 61F 640 64B-655 670 204F 2E41 FD3E-FD3F 102E0-102FB"⟩,
   ⟨["armn"], runs "308"⟩,
   ⟨["avst"], runs "B7 2E30-2E31"⟩,
   ⟨["beng"], runs "2BC 951-952 964-965 1CD0 1CD2 1CD5-1CD6 1CD8 1CE1 1CEA 1CED 1CF2 1CF5-1CF7 A8F1"⟩,
   ⟨["bopo"], runs
      "2C7 2C9-2CB 2D9 3001-3003 3008-3011 3013-301F 302A-302D 3030 3037 30FB FE45-FE46 FF61-FF65"⟩,
   ⟨["bugi"], runs "A9CF"⟩,
   ⟨["buhd"], runs "1735-1736"⟩,
   ⟨["cakm"], runs "9E6-9EF 1040-1049"⟩,
   ⟨["cari"], runs "B7 205A 205D 2E31"⟩,
   ⟨["cher"], runs "300-302 304 30B-30C 323-324 330-331"⟩,
   ⟨["copt"], runs "B7 300 304-305 307 374-375 2E17 102E0-102FB"⟩,
   ⟨["cpmn"], runs "10100-10101"⟩,
   ⟨["cprt"], runs "10100-10102 10107-10133 10137-1013F"⟩,
   ⟨["cyrl"], runs "2BC 300-302 304-308/2 30B 311 485-486 1DF8 2E43"⟩,
   ⟨["deva"], runs "2BC 951-952 964-965 1CD0-1CF6 1CF8-1CF9 20F0 A830-A839"⟩,
   ⟨["dogr"], runs "964-96F A830-A839"⟩,
   ⟨["dupl"], runs "B7 307-308 30A 323-324 2E3C 1BCA0-1BCA3"⟩,
   ⟨["elba"], runs "B7 305"⟩,
   ⟨["ethi"], runs "30E"⟩,
   ⟨["gara"], runs "60C 61B 61F"⟩,
   ⟨["geor"], runs "B7 589 10FB 205A 2E31"⟩,
   ⟨["glag"], runs "B7 303 305 484 487 589 10FB 205A 2E43 A66F"⟩,
   ⟨["gong"], runs "B7 964-965"⟩,
   ⟨["gonm"], runs "964-965"⟩,
   ⟨["goth"], runs "B7 304-305 308 331"⟩,
   ⟨["gran"], runs
      "951-952 964-965 BE6-BF3 1CD0 1CD2-1CD3 1CF2-1CF4 1CF8-1CF9 20F0 1133B 11FD0-11FD1 11FD3"⟩,
   ⟨["grek"], runs "B7 300-301 304-308/2 313 342 345 374 1DC0-1DC1 205D"⟩,
   ⟨["gujr"], runs "951-952 964-965 A830-A839"⟩,
   ⟨["gukh"], runs "965"⟩,
   ⟨["guru"], runs "951-952 964-965 A830-A839"⟩,
   ⟨["hang"], runs "3001-3003 3008-3011 3013-301F 3030 3037 30FB FE45-FE46 FF61-FF65"⟩,
   ⟨["hani"], runs
      "B7 2FF0-2FFF 3001-3003 3006 3008-3011 3013-301F 302A-302D 3030 3037 303C-303F 30FB 3190-319F
      31C0-31E5 31EF 3220-3247 3280-32B0 32C0-32CB 32FF 3358-3370 337B-337F 33E0-33FE A700-A707
      FE45-FE46 FF61-FF65 1D360-1D371 1F250-1F251"⟩,
   ⟨["hano"], runs "1735-1736"⟩,
   ⟨["hebr"], runs "307-308"⟩,
   ⟨["hira"], runs
      "3001-3003 3008-3011 3013-301F 3030-3035 3037 303C-303D 3099-309C 30A0 30FB-30FC FE45-FE46
      FF61-FF65 FF70 FF9E-FF9F"⟩,
   ⟨["hung"], runs "205A 205D 2E31 2E41"⟩,
   ⟨["java"], runs "A9CF"⟩,
   ⟨["kali"], runs "A92E"⟩,
   ⟨["kana"], runs
      "305 323 3001-3003 3008-3011 3013-301F 3030-3035 3037 303C-303D 3099-309C 30A0 30FB-30FC
      FE45-FE46 FF61-FF65 FF70 FF9E-FF9F"⟩,
   ⟨["khoj"], runs "AE6-AEF A830-A839"⟩,
   ⟨["knda"], runs "951-952 964-965 1CD0 1CD2-1CD3 1CDA 1CF2 1CF4 A830-A835"⟩,
   ⟨["kthi"], runs "966-96F 2E31 A830-A839"⟩,
   ⟨["latn"], runs
      "B7 2BC 2C7 2C9-2CB 2CD 2D7 2D9 300-30E 310-311 313 323-325 32D-32E 330-331 358 35E 363-36F
      485-486 951-952 10FB 1DF8 202F 20F0 2E17 A700-A707 A92E"⟩,
   ⟨["limb"], runs "965"⟩,
   ⟨["lina"], runs "10107-10133"⟩,
   ⟨["linb"], runs "10100-10102 10107-10133 10137-1013F"⟩,
   ⟨["lisu"], runs "2BC 2CD 300A-300B"⟩,
   ⟨["lyci"], runs "205A"⟩,
   ⟨["lydi"], runs "B7 2E31"⟩,
   ⟨["mahj"], runs "B7 964-96F A830-A839"⟩,
   ⟨["mand"], runs "640"⟩,
   ⟨["mani"], runs "640"⟩,
   ⟨["mero"], runs "205D"⟩,
   ⟨["mlym"], runs "951-952 964-965 1CDA 1CF2 A830-A832"⟩,
   ⟨["modi"], runs "A830-A839"⟩,
   ⟨["mong"], runs "1802-1803 1805 202F 3001-3002 3008-300B"⟩,
   ⟨["mult"], runs "A66-A6F"⟩,
   ⟨["mymr"], runs "A92E"⟩,
   ⟨["nand"], runs "951 964-965 CE6-CEF 1CE9 1CF2 1CFA A830-A835"⟩,
   ⟨["newa"], runs "951-952 1CD5 1CD7-1CD8 1CE2 1CE9-1CED/2"⟩,
   ⟨["nkoo"], runs "60C 61B 61F FD3E-FD3F"⟩,
   ⟨["onao"], runs "964-965"⟩,
   ⟨["orkh"], runs "205A 2E30"⟩,
   ⟨["orya"], runs "951-952 964-965 1CDA 1CF2"⟩,
   ⟨["osge"], runs "301 304 30B 358"⟩,
   ⟨["ougr"], runs "640 10AF2"⟩,
   ⟨["perm"], runs "B7 300 306-308 313 483"⟩,
   ⟨["phag"], runs "1802-1803 1805 202F 3002"⟩,
   ⟨["phlp"], runs "640"⟩,
   ⟨["rohg"], runs "60C 61B 61F 640 6D4"⟩,
   ⟨["runr"], runs "16EB-16ED"⟩,
   ⟨["samr"], runs "2E31"⟩,
   ⟨["shaw"], runs "B7"⟩,
   ⟨["shrd"], runs "951 1CD7 1CD9 1CDC-1CDD 1CE0 1CEA 1CED A830-A835 A838"⟩,
   ⟨["sind"], runs "964-965 A830-A839"⟩,
   ⟨["sinh"], runs "964-965 1CF2"⟩,
   ⟨["sogd"], runs "640"⟩,
   ⟨["sunu"], runs "300-301 303 30D 310 32D 331"⟩,
   ⟨["sylo"], runs "964-965 9E6-9EF"⟩,
   ⟨["syrc"], runs
      "303-304 307-308 30A 323-325 32D-32E 330-331 60C 61B-61C 61F 640 64B-655 670 1DF8 1DFA"⟩,
   ⟨["tagb"], runs "1735-1736"⟩,
   ⟨["takr"], runs "964-965 A830-A839"⟩,
   ⟨["tale"], runs "300-301 307-308 30C 1040-1049"⟩,
   ⟨["taml"], runs "951-952 964-965 1CDA A8F3 11301 11303 1133B-1133C"⟩,
   ⟨["tang"], runs "2FF0-2FFF 31EF"⟩,
   ⟨["telu"], runs "951-952 964-965 1CD5-1CD6 1CD8 1CDA 1CF2"⟩,
   ⟨["tfng"], runs "302 304 306-309 323"⟩,
   ⟨["tglg"], runs "1735-1736"⟩,
   ⟨["thaa"], runs "60C 61B-61C 61F 660-669 FDF2 FDFD"⟩,
   ⟨["thai"], runs "2BC 2D7 303 331"⟩,
   ⟨["tibt"], runs "3008-300B"⟩,
   ⟨["tirh"], runs "951-952 964-965 1CD5 1CE2 1CF2 A830-A839"⟩,
   ⟨["todr"], runs "301-307/3 311 313 35E"⟩,
   ⟨["toto"], runs "2BC"⟩,
   ⟨["tutg"], runs "CE6-CEF 1CF2 1CF4 A830-A835 A8F1"⟩,
   ⟨["yezi"], runs "60C 61B 61F 660-669"⟩,
   ⟨["yiii"], runs "3001-3002 3008-3011 3014-301B 30FB FF61-FF65"⟩]

end JsonSchema.Unicode
