import TokenGrammar.Unicode.Script

/-! # Characters of several scripts

Some characters are shared by a few scripts, as of Unicode 16, whichever one they belong to.

* `Unicode.sharedCharacters`: these characters with short names of their scripts.
* `Unicode.usedBy`: the characters that a script uses. -/

namespace TokenGrammar.Unicode

/-- The characters for which the scripts that use them are listed one by one, with short
names of these scripts. -/
def sharedCharacters : List (List String × CharSet) :=
  [(["avst", "cari", "copt", "dupl", "elba", "geor", "glag", "gong", "goth", "grek", "han",
      "latn", "lydi", "mahj", "perm", "shaw"], .ofLines ["B7"]),
    (["beng", "cyrl", "deva", "latn", "lisu", "thai", "toto"], .ofLines ["2BC"]),
    (["bopo", "latn"], .ofLines ["2C7 2C9-2CB 2D9"]),
    (["latn", "lisu"], .ofLines ["2CD"]),
    (["latn", "thai"], .ofLines ["2D7"]),
    (["cher", "copt", "cyrl", "grek", "latn", "perm", "sunu", "tale"], .ofLines ["300"]),
    (["cher", "cyrl", "grek", "latn", "osge", "sunu", "tale", "todr"], .ofLines ["301"]),
    (["cher", "cyrl", "latn", "tfng"], .ofLines ["302"]),
    (["glag", "latn", "sunu", "syrc", "thai"], .ofLines ["303"]),
    (["aghb", "cher", "copt", "cyrl", "goth", "grek", "latn", "osge", "syrc", "tfng", "todr"],
      .ofLines ["304"]),
    (["copt", "elba", "glag", "goth", "kana", "latn"], .ofLines ["305"]),
    (["cyrl", "grek", "latn", "perm"], .ofLines ["306"]),
    (["copt", "dupl", "hebr", "latn", "perm", "syrc", "tale", "tfng", "todr"], .ofLines ["307"]),
    (["armn", "cyrl", "dupl", "goth", "grek", "hebr", "latn", "perm", "syrc", "tale"],
      .ofLines ["308"]),
    (["latn", "tfng"], .ofLines ["309"]),
    (["dupl", "latn", "syrc"], .ofLines ["30A"]),
    (["cher", "cyrl", "latn", "osge"], .ofLines ["30B"]),
    (["cher", "latn", "tale"], .ofLines ["30C"]),
    (["latn", "sunu"], .ofLines ["30D 310"]),
    (["ethi", "latn"], .ofLines ["30E"]),
    (["cyrl", "latn", "todr"], .ofLines ["311"]),
    (["grek", "latn", "perm", "todr"], .ofLines ["313"]),
    (["latn", "syrc"], .ofLines ["320 325 32E"]),
    (["cher", "dupl", "kana", "latn", "syrc"], .ofLines ["323"]),
    (["cher", "dupl", "latn", "syrc"], .ofLines ["324"]),
    (["latn", "sunu", "syrc"], .ofLines ["32D"]),
    (["cher", "latn", "syrc"], .ofLines ["330"]),
    (["aghb", "cher", "goth", "latn", "sunu", "thai"], .ofLines ["331"]),
    (["grek"], .ofLines ["342 345 1DC0-1DC1"]),
    (["latn", "osge"], .ofLines ["358"]),
    (["aghb", "latn", "todr"], .ofLines ["35E"]),
    (["latn"], .ofLines ["363-36F"]),
    (["copt", "grek"], .ofLines ["374-375"]),
    (["cyrl", "perm"], .ofLines ["483"]),
    (["cyrl", "glag"], .ofLines ["484 487 2E43 A66F"]),
    (["cyrl", "latn"], .ofLines ["485-486"]),
    (["armn", "geor", "glag"], .ofLines ["589"]),
    (["arab", "gara", "nko", "rohg", "syrc", "thaa", "yezi"], .ofLines ["60C 61B"]),
    (["arab", "syrc", "thaa"], .ofLines ["61C"]),
    (["adlm", "arab", "gara", "nko", "rohg", "syrc", "thaa", "yezi"], .ofLines ["61F"]),
    (["adlm", "arab", "mand", "mani", "ougr", "phlp", "rohg", "sogd", "syrc"], .ofLines ["640"]),
    (["arab", "syrc"], .ofLines ["64B-655 670"]),
    (["arab", "thaa", "yezi"], .ofLines ["660-669"]),
    (["arab", "rohg"], .ofLines ["6D4"]),
    (["beng", "deva", "gran", "gujr", "guru", "knda", "latn", "mlym", "orya", "shrd", "taml",
      "telu", "tirh"], .ofLines ["951"]),
    (["beng", "deva", "gran", "gujr", "guru", "knda", "latn", "mlym", "orya", "taml", "telu",
      "tirh"], .ofLines ["952"]),
    (["beng", "deva", "dogr", "gong", "gonm", "gran", "gujr", "guru", "knda", "mahj", "mlym",
      "nand", "onao", "orya", "sind", "sinh", "sylo", "takr", "taml", "telu", "tirh"],
      .ofLines ["964"]),
    (["beng", "deva", "dogr", "gong", "gonm", "gran", "gujr", "gukh", "guru", "knda", "limb",
      "mahj", "mlym", "nand", "onao", "orya", "sind", "sinh", "sylo", "takr", "taml", "telu",
      "tirh"], .ofLines ["965"]),
    (["deva", "dogr", "kthi", "mahj"], .ofLines ["966-96F"]),
    (["beng", "cakm", "sylo"], .ofLines ["9E6-9EF"]),
    (["guru", "mult"], .ofLines ["A66-A6F"]),
    (["gujr", "khoj"], .ofLines ["AE6-AEF"]),
    (["gran", "taml"], .ofLines ["BE6-BF3 11301 11303 1133B-1133C 11FD0-11FD1 11FD3"]),
    (["knda", "nand", "tutg"], .ofLines ["CE6-CEF"]),
    (["cakm", "mymr", "tale"], .ofLines ["1040-1049"]),
    (["geor", "glag", "latn"], .ofLines ["10FB"]),
    (["runr"], .ofLines ["16EB-16ED"]),
    (["buhd", "hano", "tagb", "tglg"], .ofLines ["1735-1736"]),
    (["mong", "phag"], .ofLines ["1802-1803 1805"]),
    (["beng", "deva", "gran", "knda"], .ofLines ["1CD0 1CD2"]),
    (["deva"], .ofLines ["1CD1 1CD4 1CDB 1CDE-1CDF 1CE2-1CE8 1CEB-1CEC 1CEE-1CF1"]),
    (["deva", "gran", "knda"], .ofLines ["1CD3"]),
    (["beng", "deva"], .ofLines ["1CD5-1CD6 1CD8 1CE1 1CEA 1CED 1CF5-1CF6"]),
    (["deva", "shrd"], .ofLines ["1CD7 1CD9 1CDC-1CDD 1CE0"]),
    (["deva", "knda", "mlym", "orya", "taml", "telu"], .ofLines ["1CDA"]),
    (["deva", "nand"], .ofLines ["1CE9"]),
    (["beng", "deva", "gran", "knda", "mlym", "nand", "orya", "sinh", "telu", "tirh", "tutg"],
      .ofLines ["1CF2"]),
    (["deva", "gran"], .ofLines ["1CF3 1CF8-1CF9"]),
    (["deva", "gran", "knda", "tutg"], .ofLines ["1CF4"]),
    (["beng"], .ofLines ["1CF7"]),
    (["nand"], .ofLines ["1CFA"]),
    (["cyrl", "latn", "syrc"], .ofLines ["1DF8"]),
    (["syrc"], .ofLines ["1DFA"]),
    (["latn", "mong", "phag"], .ofLines ["202F"]),
    (["adlm", "arab"], .ofLines ["204F"]),
    (["cari", "geor", "glag", "hung", "lyci", "orkh"], .ofLines ["205A"]),
    (["cari", "grek", "hung", "mero"], .ofLines ["205D"]),
    (["deva", "gran", "latn"], .ofLines ["20F0"]),
    (["copt", "latn"], .ofLines ["2E17"]),
    (["avst", "orkh"], .ofLines ["2E30"]),
    (["avst", "cari", "geor", "hung", "kthi", "lydi", "samr"], .ofLines ["2E31"]),
    (["dupl"], .ofLines ["2E3C 1BCA0-1BCA3"]),
    (["adlm", "arab", "hung"], .ofLines ["2E41"]),
    (["han", "tang"], .ofLines ["2FF0-2FFF 31EF"]),
    (["bopo", "han", "hang", "hira", "kana", "mong", "yi"], .ofLines ["3001"]),
    (["bopo", "han", "hang", "hira", "kana", "mong", "phag", "yi"], .ofLines ["3002"]),
    (["bopo", "han", "hang", "hira", "kana"],
      .ofLines ["3003 3013 301C-301F 3030 3037 FE45-FE46"]),
    (["han"],
      .ofLines
        ["3006 303E-303F 3190-319F 31C0-31E5 3220-3247 3280-32B0 32C0-32CB 32FF 3358-3370",
         "337B-337F 33E0-33FE 1D360-1D371 1F250-1F251"]),
    (["bopo", "han", "hang", "hira", "kana", "mong", "tibt", "yi"], .ofLines ["3008-3009"]),
    (["bopo", "han", "hang", "hira", "kana", "lisu", "mong", "tibt", "yi"],
      .ofLines ["300A-300B"]),
    (["bopo", "han", "hang", "hira", "kana", "yi"],
      .ofLines ["300C-3011 3014-301B 30FB FF61-FF65"]),
    (["bopo", "han"], .ofLines ["302A-302D"]),
    (["hira", "kana"], .ofLines ["3031-3035 3099-309C 30A0 30FC FF70 FF9E-FF9F"]),
    (["han", "hira", "kana"], .ofLines ["303C-303D"]),
    (["han", "latn"], .ofLines ["A700-A707"]),
    (["deva", "dogr", "gujr", "guru", "khoj", "knda", "kthi", "mahj", "mlym", "modi", "nand",
      "shrd", "sind", "takr", "tirh", "tutg"], .ofLines ["A830-A832"]),
    (["deva", "dogr", "gujr", "guru", "khoj", "knda", "kthi", "mahj", "modi", "nand", "shrd",
      "sind", "takr", "tirh", "tutg"], .ofLines ["A833-A835"]),
    (["deva", "dogr", "gujr", "guru", "khoj", "kthi", "mahj", "modi", "sind", "takr", "tirh"],
      .ofLines ["A836-A837 A839"]),
    (["deva", "dogr", "gujr", "guru", "khoj", "kthi", "mahj", "modi", "shrd", "sind", "takr",
      "tirh"], .ofLines ["A838"]),
    (["beng", "deva", "tutg"], .ofLines ["A8F1"]),
    (["deva", "taml"], .ofLines ["A8F3"]),
    (["kali", "latn", "mymr"], .ofLines ["A92E"]),
    (["bugi", "java"], .ofLines ["A9CF"]),
    (["arab", "nko"], .ofLines ["FD3E-FD3F"]),
    (["arab", "thaa"], .ofLines ["FDF2 FDFD"]),
    (["cpmn", "cprt", "linb"], .ofLines ["10100-10101"]),
    (["cprt", "linb"], .ofLines ["10102 10137-1013F"]),
    (["cprt", "lina", "linb"], .ofLines ["10107-10133"]),
    (["arab", "copt"], .ofLines ["102E0-102FB"]),
    (["mani", "ougr"], .ofLines ["10AF2"])]

/-- The characters that a script uses, given its names and members: those for which it is listed,
and of its members those without a list. -/
def usedBy (script : List String × CharSet) : CharSet :=
  let listed := (sharedCharacters.filter fun (users, _) => users.any script.1.contains).map (·.2)
  let shared := CharSet.unionAll (sharedCharacters.map (·.2))
  (CharSet.unionAll listed).union (script.2.difference shared)

end TokenGrammar.Unicode
