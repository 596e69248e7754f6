import CodeSearch.Unicode.Script.Runs

/-!
Scripts by the first letter of their four-letter code, A to K, Unicode 16.0.
-/
namespace CodeSearch.Unicode.Script

def runsAK : List Runs := [
  ⟨["adlm", "adlam"],
    ["1e900 4c 4 a 4 2"],
    ["61f 1 20 1 1a0e 1 df1 1"], []⟩,
  ⟨["aghb", "caucasianalbanian"],
    ["10530 34 b 1"],
    ["304 1 2c 1 2c 1"], []⟩,
  ⟨["ahom"],
    ["11700 1b 2 f 4 17"],
    [], []⟩,
  ⟨["arab", "arabic"],
    ["600 5 1 6 1 e 1 3 1 20 1 a b 1a 1 6c 1 22 50 30 f0 1f 1 2 5 4b 1 1d f250 73 10 16b 2",
     "50 2 36 7 1 20 10 70 5 1 87 f63 1f 43 3 37 4 df00 4 1 1b 1 2 1 1 2 1 1 a 1 4 1 1 1 1",
     "6 1 4 1 1 1 1 1 1 3 1 2 1 1 2 1 1 1 1 1 1 1 1 1 1 2 1 1 2 4 1 7 1 4 1 4 1 1 1 a 1 11",
     "5 3 1 5 1 11 34 2"],
    ["60c 1 e 1 3 1 20 1 a b 1a 1 19de 1 df1 1 cefc 2 5a0 1c"], []⟩,
  ⟨["armi", "imperialaramaic"],
    ["10840 16 1 9"],
    [], []⟩,
  ⟨["armn", "armenian"],
    ["531 26 2 32 2 3 f583 5"],
    ["308 1"], []⟩,
  ⟨["avst", "avestan"],
    ["10b00 36 3 7"],
    ["b7 1 2d78 2"], []⟩,
  ⟨["bali", "balinese"],
    ["1b00 4d 1 32"],
    [], []⟩,
  ⟨["bamu", "bamum"],
    ["a6a0 58 c108 239"],
    [], []⟩,
  ⟨["bass", "bassavah"],
    ["16ad0 1e 2 6"],
    [], []⟩,
  ⟨["batk", "batak"],
    ["1bc0 34 8 4"],
    [], []⟩,
  ⟨["beng", "bengali"],
    ["980 4 1 8 2 2 2 16 1 7 1 1 3 4 2 9 2 2 2 4 8 1 4 2 1 5 2 19"],
    ["2bc 1 694 2 11 2 136a 1 1 1 2 2 1 1 8 1 8 1 2 1 4 1 2 3 8bf9 1"], []⟩,
  ⟨["bhks", "bhaiksuki"],
    ["11c00 9 1 2d 1 e a 1d"],
    [], []⟩,
  ⟨["bopo", "bopomofo"],
    ["2ea 2 2e19 2b 70 20"],
    ["2c7 1 1 3 d 1 2d27 3 4 a 1 d a 4 2 1 6 1 c3 1 cd49 2 11a 5"], []⟩,
  ⟨["brah", "brahmi"],
    ["11000 4e 4 24 9 1"],
    [], []⟩,
  ⟨["brai", "braille"],
    ["2800 100"],
    [], []⟩,
  ⟨["bugi", "buginese"],
    ["1a00 1c 2 2"],
    ["a9cf 1"], []⟩,
  ⟨["buhd", "buhid"],
    ["1740 14"],
    ["1735 2"], []⟩,
  ⟨["cakm", "chakma"],
    ["11100 35 1 12"],
    ["9e6 a 650 a"], []⟩,
  ⟨["cans", "canadianaboriginal"],
    ["1400 280 230 46 101ba 10"],
    [], []⟩,
  ⟨["cari", "carian"],
    ["102a0 31"],
    ["b7 1 1fa2 1 2 1 dd3 1"], []⟩,
  ⟨["cham"],
    ["aa00 37 9 e 2 a 2 4"],
    [], []⟩,
  ⟨["cher", "cherokee"],
    ["13a0 56 2 6 9772 50"],
    ["300 3 1 1 6 2 16 2 b 2"], []⟩,
  ⟨["chrs", "chorasmian"],
    ["10fb0 1c"],
    [], []⟩,
  ⟨["copt", "coptic", "qaac"],
    ["3e2 e 2890 74 5 7"],
    ["b7 1 248 1 3 2 1 1 6c 2 2aa1 1 d4c8 1c"], []⟩,
  ⟨["cpmn", "cyprominoan"],
    ["12f90 63"],
    ["10100 2"], []⟩,
  ⟨["cprt", "cypriot"],
    ["10800 6 2 1 1 2c 1 2 3 1 2 1"],
    ["10100 3 4 2d 3 9"], []⟩,
  ⟨["cyrl", "cyrillic"],
    ["400 85 2 a9 1750 b a0 1 4c 1 1067 20 7840 60 578e 2 e200 3e 21 1"],
    ["2bc 1 43 3 1 1 1 1 1 1 2 1 5 1 173 2 1971 1 104a 1"], []⟩,
  ⟨["deva", "devanagari"],
    ["900 51 4 f 2 1a 9f60 20 7200 a"],
    ["2bc 1 694 2 11 2 136a 27 1 2 3f6 1 873f a"], []⟩,
  ⟨["diak", "divesakuru"],
    ["11900 7 2 1 2 8 1 2 1 1e 1 2 2 c 9 a"],
    [], []⟩,
  ⟨["dogr", "dogra"],
    ["11800 3c"],
    ["964 c 9ec0 a"], []⟩,
  ⟨["dsrt", "deseret"],
    ["10400 50"],
    [], []⟩,
  ⟨["dupl", "duployan"],
    ["1bc00 6b 5 d 3 9 7 a 2 4"],
    ["b7 1 24f 2 1 1 18 2 2b17 1 18e63 4"], []⟩,
  ⟨["egyp", "egyptianhieroglyphs"],
    ["13000 456 a f9b"],
    [], []⟩,
  ⟨["elba", "elbasan"],
    ["10500 28"],
    ["b7 1 24d 1"], []⟩,
  ⟨["elym", "elymaic"],
    ["10fe0 17"],
    [], []⟩,
  ⟨["ethi", "ethiopic"],
    ["1200 49 1 4 2 7 1 1 1 4 2 29 1 4 2 21 1 4 2 7 1 1 1 4 2 f 1 39 1 4 2 43 2 20 3 1a",
     "19e6 17 9 7 1 7 1 7 1 7 1 7 1 7 1 7 1 7 7d22 6 2 6 2 6 9 7 1 7 13cb1 7 1 4 1 2 1 f"],
    ["30e 1"], []⟩,
  ⟨["gara", "garay"],
    ["10d40 26 3 1d 8 2"],
    ["60c 1 e 1 3 1"], []⟩,
  ⟨["geor", "georgian"],
    ["10a0 26 1 1 5 1 2 2b 1 4 b90 2b 2 3 1040 26 1 1 5 1"],
    ["b7 1 4d1 1 b71 1 f5e 1 dd6 1"], []⟩,
  ⟨["glag", "glagolitic"],
    ["2c00 60 1b3a0 7 1 11 2 7 1 2 1 5"],
    ["b7 1 24b 1 1 1 17e 1 2 1 101 1 b71 1 f5e 1 de8 1 782b 1"], []⟩,
  ⟨["gong", "gunjalagondi"],
    ["11d60 6 1 2 1 25 1 2 1 6 7 a"],
    ["b7 1 8ac 2"], []⟩,
  ⟨["gonm", "masaramgondi"],
    ["11d00 7 1 2 1 2c 3 1 1 2 1 9 8 a"],
    ["964 2"], []⟩,
  ⟨["goth", "gothic"],
    ["10330 1b"],
    ["b7 1 24c 2 2 1 28 1"], []⟩,
  ⟨["gran", "grantha"],
    ["11300 4 1 8 2 2 2 16 1 7 1 2 1 5 2 9 2 2 2 3 2 1 6 1 5 7 2 7 3 5"],
    ["951 2 11 2 280 e 10dc 1 1 2 1e 3 3 2 3f6 1 f24a 1 c94 2 1 1"], []⟩,
  ⟨["grek", "greek"],
    ["370 4 1 3 2 4 1 1 4 1 1 1 1 3 1 1 1 14 1 3f e 10 1926 5 32 5 4 5 54 1 140 16 2 6 2",
     "26 2 6 2 8 1 1 1 1 1 1 1 1f 2 35 1 f 1 e 2 6 1 13 2 3 1 9 127 1 8a3e 1 55da 4f 11 1",
     "d05f 46"],
    ["b7 1 248 2 2 1 1 1 1 1 a 1 2e 1 2 1 2e 1 1a4b 2 29b 1"], []⟩,
  ⟨["gujr", "gujarati"],
    ["a81 3 1 9 1 3 1 16 1 7 1 2 1 5 2 a 1 3 1 3 2 1 f 4 2 c 7 7"],
    ["951 2 11 2 9eca a"], []⟩,
  ⟨["gukh", "gurungkhema"],
    ["16100 3a"],
    ["965 1"], []⟩,
  ⟨["guru", "gurmukhi"],
    ["a01 3 1 6 4 2 2 16 1 7 1 2 1 2 1 2 2 1 1 5 4 2 2 3 3 1 7 4 1 1 7 11"],
    ["951 2 11 2 9eca a"], []⟩,
  ⟨["hang", "hangul"],
    ["1100 100 1e2e 2 101 5e 71 1f 41 1f 76e1 1d 283 2ba4 c 17 4 31 27a4 1f 3 6 2 6 2 6 2",
     "3"],
    ["3001 3 4 a 1 d 10 1 6 1 c3 1 cd49 2 11a 5"], []⟩,
  ⟨["hani", "han"],
    ["2e80 1a 1 59 c d6 2f 1 1 1 19 9 e 4 3c4 19c0 40 5200 5900 16e 2 6a 7508 2 c 2 900e",
     "a6e0 20 103a 6 de 2 1682 e 1d31 f 26e 9a2 21e 5e2 134b 5 1060"],
    ["b7 1 2f38 10 1 3 2 1 1 a 1 d a 4 2 1 6 1 4 4 bb 1 94 10 20 26 9 1 30 28 38 31 f c 33",
     "1 58 19 a 5 60 1f 7301 8 573d 2 11a 5 d3fa 12 1ede 2"], []⟩,
  ⟨["hano", "hanunoo"],
    ["1720 15"],
    ["1735 2"], []⟩,
  ⟨["hatr", "hatran"],
    ["108e0 13 1 2 5 5"],
    [], []⟩,
  ⟨["hebr", "hebrew"],
    ["591 37 8 1b 4 6 f528 1a 1 5 1 1 1 2 1 2 1 a"],
    ["307 2"], []⟩,
  ⟨["hira", "hiragana"],
    ["3041 56 6 3 17f61 11f 12 1 1d 3 40ad 1"],
    ["3001 3 4 a 1 d 10 6 1 1 4 2 5b 4 3 1 5a 2 cd48 2 11a 5 a 1 2d 2"], []⟩,
  ⟨["hluw", "anatolianhieroglyphs"],
    ["14400 247"],
    [], []⟩,
  ⟨["hmng", "pahawhhmong"],
    ["16b00 46 a a 1 7 1 15 5 13"],
    [], []⟩,
  ⟨["hmnp", "nyiakengpuachuehmong"],
    ["1e100 2d 3 e 2 a 4 2"],
    [], []⟩,
  ⟨["hung", "oldhungarian"],
    ["10c80 33 d 33 7 6"],
    ["205a 1 2 1 dd3 1 f 1"], []⟩,
  ⟨["ital", "olditalic"],
    ["10300 24 9 3"],
    [], []⟩,
  ⟨["java", "javanese"],
    ["a980 4e 2 a 4 2"],
    ["a9cf 1"], []⟩,
  ⟨["kali", "kayahli"],
    ["a900 2e 1 1"],
    ["a92e 1"], []⟩,
  ⟨["kana", "katakana"],
    ["30a1 5a 2 3 f0 10 d0 2f 1 58 cc0e a 1 2d b052 4 1 7 1 2 1 1 11f 3 32 1 e 4"],
    ["305 1 1d 1 2cdd 3 4 a 1 d 10 6 1 1 4 2 5b 4 3 1 5a 2 cd48 2 11a 5 a 1 2d 2"], []⟩,
  ⟨["kawi"],
    ["11f00 11 1 29 3 1d"],
    [], []⟩,
  ⟨["khar", "kharoshthi"],
    ["10a00 4 1 2 5 8 1 3 1 1d 2 3 4 a 7 9"],
    [], []⟩,
  ⟨["khmr", "khmer"],
    ["1780 5e 2 a 6 a 1e6 20"],
    [], []⟩,
  ⟨["khoj", "khojki"],
    ["11200 12 1 2f"],
    ["ae6 a 9d40 a"], []⟩,
  ⟨["kits", "khitansmallscript"],
    ["16fe4 1 1b1b 1d6 29 1"],
    [], []⟩,
  ⟨["knda", "kannada"],
    ["c80 d 1 3 1 17 1 a 1 5 2 9 1 3 1 4 7 2 6 2 1 4 2 a 1 3"],
    ["951 2 11 2 136a 1 1 2 6 1 17 1 1 1 8b3b 6"], []⟩,
  ⟨["krai", "kiratrai"],
    ["16d40 3a"],
    [], []⟩,
  ⟨["kthi", "kaithi"],
    ["11080 43 a 1"],
    ["966 a 24c1 1 79fe a"], []⟩]

end CodeSearch.Unicode.Script
