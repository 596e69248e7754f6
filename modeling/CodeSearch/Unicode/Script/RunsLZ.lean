import CodeSearch.Unicode.Script.Runs

/-!
Scripts by the first letter of their four-letter code, L to Z, Unicode 16.0.
-/
namespace CodeSearch.Unicode.Script

def runsLZ : List Runs := [
  ⟨["lana", "taitham"],
    ["1a20 3f 1 1d 2 b 6 a 6 e"],
    [], []⟩,
  ⟨["laoo", "lao"],
    ["e81 2 1 1 1 5 1 18 1 1 1 17 2 5 1 1 1 7 1 a 2 4"],
    [], []⟩,
  ⟨["latn", "latin"],
    ["41 1a 6 1a 2f 1 f 1 5 17 1 1f 1 1c1 27 5 1a1b 26 6 31 5 4 5 d 1 46 41 100 171 1 d 1",
     "10 d 8d 2 6 1 1b 1 11 29 ad7 20 7aa2 66 3 43 2 2 1 1 1 8 15 e 330 2b 1 9 1 4 4f96 7",
     "41a 1a 6 1a 825 6 1 2a 1 9 d745 1f 6 6"],
    ["b7 1 204 1 a 1 1 3 1 1 9 1 1 1 26 f 1 2 1 1 c 1 2 3 7 2 1 2 26 1 5 1 4 d 115 2 4ca 2",
     "7a8 1 cfc 1 236 1 c0 1 d26 1 78e8 8 226 1"], []⟩,
  ⟨["lepc", "lepcha"],
    ["1c00 38 3 f 3 3"],
    [], []⟩,
  ⟨["limb", "limbu"],
    ["1900 1f 1 c 4 c 4 1 3 c"],
    ["965 1"], []⟩,
  ⟨["lina", "lineara"],
    ["10600 137 9 16 a 8"],
    ["10107 2d"], []⟩,
  ⟨["linb", "linearb"],
    ["10000 c 1 1a 1 13 1 2 1 f 2 e 22 7b"],
    ["10100 3 4 2d 3 9"], []⟩,
  ⟨["lisu"],
    ["a4d0 30 7ab0 1"],
    ["2bc 1 10 1 2d3c 2"], []⟩,
  ⟨["lyci", "lycian"],
    ["10280 1d"],
    ["205a 1"], []⟩,
  ⟨["lydi", "lydian"],
    ["10920 1a 5 1"],
    ["b7 1 2d79 1"], []⟩,
  ⟨["mahj", "mahajani"],
    ["11150 27"],
    ["b7 1 8ac c 9ec0 a"], []⟩,
  ⟨["maka", "makasar"],
    ["11ee0 19"],
    [], []⟩,
  ⟨["mand", "mandaic"],
    ["840 1c 2 1"],
    ["640 1"], []⟩,
  ⟨["mani", "manichaean"],
    ["10ac0 27 4 c"],
    ["640 1"], []⟩,
  ⟨["marc", "marchen"],
    ["11c70 20 2 16 1 e"],
    [], []⟩,
  ⟨["medf", "medefaidrin"],
    ["16e40 5b"],
    [], []⟩,
  ⟨["mend", "mendekikakui"],
    ["1e800 c5 2 10"],
    [], []⟩,
  ⟨["merc", "meroiticcursive"],
    ["109a0 18 4 14 2 2e"],
    [], []⟩,
  ⟨["mero", "meroitichieroglyphs"],
    ["10980 20"],
    ["205d 1"], []⟩,
  ⟨["mlym", "malayalam"],
    ["d00 d 1 3 1 33 1 3 1 6 4 10 2 1a"],
    ["951 2 11 2 1374 1 17 1 8b3d 3"], []⟩,
  ⟨["modi"],
    ["11600 45 b a"],
    ["a830 a"], []⟩,
  ⟨["mong", "mongolian"],
    ["1800 2 2 1 1 14 6 59 7 2b fdb5 d"],
    ["1802 2 1 1 829 1 fd1 2 5 4"], []⟩,
  ⟨["mroo", "mro"],
    ["16a40 1f 1 a 4 2"],
    [], []⟩,
  ⟨["mtei", "meeteimayek"],
    ["aae0 17 c9 2e 2 a"],
    [], []⟩,
  ⟨["mult", "multani"],
    ["11280 7 1 1 1 4 1 f 1 b"],
    ["a66 a"], []⟩,
  ⟨["mymr", "myanmar"],
    ["1000 a0 9940 1f 61 20 6c50 14"],
    ["a92e 1"], []⟩,
  ⟨["nagm", "nagmundari"],
    ["1e4d0 2a"],
    [], []⟩,
  ⟨["nand", "nandinagari"],
    ["119a0 8 2 2e 2 b"],
    ["964 2 380 a ff9 1 8 1 7 1 8b35 6"], []⟩,
  ⟨["narb", "oldnortharabian"],
    ["10a80 20"],
    [], []⟩,
  ⟨["nbat", "nabataean"],
    ["10880 1f 8 9"],
    [], []⟩,
  ⟨["newa"],
    ["11400 5c 1 5"],
    [], []⟩,
  ⟨["nkoo", "nko"],
    ["7c0 3b 2 3"],
    ["60c 1 e 1 3 1 f71e 2"], []⟩,
  ⟨["nshu", "nushu"],
    ["16fe1 1 418e 18c"],
    [], []⟩,
  ⟨["ogam", "ogham"],
    ["1680 1d"],
    [], []⟩,
  ⟨["olck", "olchiki"],
    ["1c50 30"],
    [], []⟩,
  ⟨["onao", "olonal"],
    ["1e5d0 2b 4 1"],
    ["964 2"], []⟩,
  ⟨["orkh", "oldturkic"],
    ["10c00 49"],
    ["205a 1 dd5 1"], []⟩,
  ⟨["orya", "oriya"],
    ["b01 3 1 8 2 2 2 16 1 7 1 2 1 5 2 9 2 2 2 3 7 3 4 2 1 5 2 12"],
    ["951 2 11 2 1374 1 17 1"], []⟩,
  ⟨["osge", "osage"],
    ["104b0 24 4 24"],
    ["301 1 2 1 6 1 4c 1"], []⟩,
  ⟨["osma", "osmanya"],
    ["10480 1e 2 a"],
    [], []⟩,
  ⟨["ougr", "olduyghur"],
    ["10f70 1a"],
    ["640 1 104b1 1"], []⟩,
  ⟨["palm", "palmyrene"],
    ["10860 20"],
    [], []⟩,
  ⟨["pauc", "paucinhau"],
    ["11ac0 39"],
    [], []⟩,
  ⟨["perm", "oldpermic"],
    ["10350 2b"],
    ["b7 1 248 1 5 3 a 1 16f 1"], []⟩,
  ⟨["phag", "phagspa"],
    ["a840 38"],
    ["1802 2 1 1 829 1 fd2 1"], []⟩,
  ⟨["phli", "inscriptionalpahlavi"],
    ["10b60 13 5 8"],
    [], []⟩,
  ⟨["phlp", "psalterpahlavi"],
    ["10b80 12 7 4 c 7"],
    ["640 1"], []⟩,
  ⟨["phnx", "phoenician"],
    ["10900 1c 3 1"],
    [], []⟩,
  ⟨["plrd", "miao"],
    ["16f00 4b 4 39 7 11"],
    [], []⟩,
  ⟨["prti", "inscriptionalparthian"],
    ["10b40 16 2 8"],
    [], []⟩,
  ⟨["rjng", "rejang"],
    ["a930 24 b 1"],
    [], []⟩,
  ⟨["rohg", "hanifirohingya"],
    ["10d00 28 8 a"],
    ["60c 1 e 1 3 1 20 1 93 1"], []⟩,
  ⟨["runr", "runic"],
    ["16a0 4b 3 b"],
    ["16eb 3"], []⟩,
  ⟨["samr", "samaritan"],
    ["800 2e 2 f"],
    ["2e31 1"], []⟩,
  ⟨["sarb", "oldsoutharabian"],
    ["10a60 20"],
    [], []⟩,
  ⟨["saur", "saurashtra"],
    ["a880 46 8 c"],
    [], []⟩,
  ⟨["sgnw", "signwriting"],
    ["1d800 28c f 5 1 f"],
    [], []⟩,
  ⟨["shaw", "shavian"],
    ["10450 30"],
    ["b7 1"], []⟩,
  ⟨["shrd", "sharada"],
    ["11180 60"],
    ["951 1 1385 1 1 1 2 2 2 1 8b4f 6 2 1"], []⟩,
  ⟨["sidd", "siddham"],
    ["11580 36 2 26"],
    [], []⟩,
  ⟨["sind", "khudawadi"],
    ["112b0 3b 5 a"],
    ["964 2 9eca a"], []⟩,
  ⟨["sinh", "sinhala"],
    ["d81 3 1 12 3 18 1 9 1 1 2 7 3 1 4 6 1 1 1 8 6 a 2 3 103ec 14"],
    ["964 2 138c 1"], []⟩,
  ⟨["sogd", "sogdian"],
    ["10f30 2a"],
    ["640 1"], []⟩,
  ⟨["sogo", "oldsogdian"],
    ["10f00 28"],
    [], []⟩,
  ⟨["sora", "sorasompeng"],
    ["110d0 19 7 a"],
    [], []⟩,
  ⟨["soyo", "soyombo"],
    ["11a50 53"],
    [], []⟩,
  ⟨["sund", "sundanese"],
    ["1b80 40 100 8"],
    [], []⟩,
  ⟨["sunu", "sunuwar"],
    ["11bc0 22 e a"],
    ["300 2 1 1 9 1 2 1 1c 1 3 1"], []⟩,
  ⟨["sylo", "sylotinagri"],
    ["a800 2d"],
    ["964 2 80 a"], []⟩,
  ⟨["syrc", "syriac"],
    ["700 e 1 3c 2 3 110 b"],
    ["303 2 2 2 1 1 15 1 2 3 7 2 1 1 2db 1 e 2 2 1 20 1 a b 1a 1 1787 1 1 1"], []⟩,
  ⟨["tagb", "tagbanwa"],
    ["1760 d 1 3 1 2"],
    ["1735 2"], []⟩,
  ⟨["takr", "takri"],
    ["11680 3a 6 a"],
    ["964 2 9eca a"], []⟩,
  ⟨["tale", "taile"],
    ["1950 1e 2 5"],
    ["300 2 5 2 3 1 d33 a"], []⟩,
  ⟨["talu", "newtailue"],
    ["1980 2c 4 1a 6 b 3 2"],
    [], []⟩,
  ⟨["taml", "tamil"],
    ["b82 2 1 6 3 3 1 4 3 2 1 1 1 2 3 2 3 3 3 c 4 5 3 3 1 4 2 1 6 1 e 15 113c5 32 d 1"],
    ["951 2 11 2 1374 1 8c18 1 6a0d 1 1 1 37 2"], []⟩,
  ⟨["tang", "tangut"],
    ["16fe0 1 1f 17f8 8 300 200 9"],
    ["2ff0 10 1ef 1"], []⟩,
  ⟨["tavt", "taiviet"],
    ["aa80 43 18 5"],
    [], []⟩,
  ⟨["telu", "telugu"],
    ["c00 d 1 3 1 17 1 10 2 9 1 3 1 4 7 2 1 3 2 1 2 4 2 a 7 9"],
    ["951 2 11 2 1374 1 17 1"], []⟩,
  ⟨["tfng", "tifinagh"],
    ["2d30 38 7 2 e 1"],
    ["302 1 1 1 2 1 1 1"], []⟩,
  ⟨["tglg", "tagalog"],
    ["1700 16 9 1"],
    ["1735 2"], []⟩,
  ⟨["thaa", "thaana"],
    ["780 32"],
    ["60c 1 e 2 2 1 40 a f788 1 a 1"], []⟩,
  ⟨["thai"],
    ["e01 3a 5 1c"],
    ["2bc 1 1a 1 2b 1 2d 1"], []⟩,
  ⟨["tibt", "tibetan"],
    ["f00 48 1 24 4 27 1 24 1 f 1 7 4 2"],
    ["3008 4"], []⟩,
  ⟨["tirh", "tirhuta"],
    ["11480 48 8 a"],
    ["951 2 11 2 138c 1 8b3d a"], []⟩,
  ⟨["tnsa", "tangsa"],
    ["16a70 4f 1 a"],
    [], []⟩,
  ⟨["todr", "todhri"],
    ["105c0 34"],
    ["301 1 2 1 2 1 9 1 1 1 4a 1"], []⟩,
  ⟨["toto"],
    ["1e290 1f"],
    ["2bc 1"], []⟩,
  ⟨["tutg", "tulutigalari"],
    ["11380 a 1 1 2 1 1 26 1 a 1 1 2 1 1 4 1 a 1 2 8 2"],
    ["ce6 a 1002 1 1 1 8b3b 6 bb 1"], []⟩,
  ⟨["ugar", "ugaritic"],
    ["10380 1e 1 1"],
    [], []⟩,
  ⟨["vaii", "vai"],
    ["a500 12c"],
    [], []⟩,
  ⟨["vith", "vithkuqi"],
    ["10570 b 1 f 1 7 1 2 1 b 1 f 1 7 1 2"],
    [], []⟩,
  ⟨["wara", "warangciti"],
    ["118a0 53 c 1"],
    [], []⟩,
  ⟨["wcho", "wancho"],
    ["1e2c0 3a 5 1"],
    [], []⟩,
  ⟨["xpeo", "oldpersian"],
    ["103a0 24 4 e"],
    [], []⟩,
  ⟨["xsux", "cuneiform"],
    ["12000 39a 66 6f 1 5 b c4"],
    [], []⟩,
  ⟨["yezi", "yezidi"],
    ["10e80 2a 1 3 2 2"],
    ["60c 1 e 1 3 1 40 a"], []⟩,
  ⟨["yiii", "yi"],
    ["a000 48d 3 37"],
    ["3001 2 5 a 2 8 df 1 ce65 5"], []⟩,
  ⟨["zanb", "zanabazarsquare"],
    ["11a00 48"],
    [], []⟩,
  ⟨["zinh", "inherited", "qaai"],
    ["300 70 115 2 1c4 b 1a 1 2e0 4 115b 1f 201 3 1 d 1 7 4 1 6 1 3 2 c6 40 20c 2 c2 21",
     "f39 4 6b 2 cd65 10 10 e 3cf 1 e2 1 105a 1 bbc4 2e 2 17 220 3 11 8 2 7 1e 4 c2f52 f0"],
    [], ["300 f 1 2 1 1 c 1 2 3 7 2 1 2 10 1 2 1 12 1 5 1 4 d 115 2 1c4 b 1a 1 2e0 2 137d 3 1",
     "d 1 7 4 1 6 1 3 2 c6 2 36 1 1 1 2f5 1 f39 4 6b 2 d245 1 105a 1"]⟩,
  ⟨["zyyy", "common"],
    ["0 41 1a 6 1a 2f 1 f 1 5 17 1 1f 1 1c1 27 5 5 2 14 74 1 9 1 6 1 1 1 27d 1 6 1 e 1 3 1",
     "20 1 9c 1 204 1 81 2 4d9 1 195 4 122 1 5ef 3 47 2 cb 2 1 1 4cd 1 d 1 7 4 1 6 1 3 2 1",
     "305 c 2 57 1 b 3 b 1 f 11 21 3f 26 1 3 2 6 1 1b 1 11 29 3 4 29a 16 b 15 3a0 100 274",
     "2 20 1 69 200 5e 192 15 1 1 1 19 f 8 4 4 5b 2 3 1 5a 2 93 10 20 26 9 1 30 40 1f 51",
     "2f 1 58 a8 19c0 40 5900 22 66 3 a5 a f4 1 a0 1 18b 1 e 2 51d2 2 d0 a 16 23 1 13 1 4",
     "93 1 1 20 1a 6 1a b a 1 2d 2 40 7 1 7 a 5 102 3 4 2d 3 9 50 d 33 2d e4 1b b9a4 4 f5c",
     "fa 6 1b4 9c 74 3c f6 a 27 2 3e 3 11 8 2 7 1e 4 3d d5 14 c 14 c 57 9 19 87 55 1 47 1",
     "2 2 1 2 2 2 4 1 c 1 1 1 7 1 41 1 4 2 8 1 7 1 1c 1 4 1 5 1 1 3 7 1 154 2 124 2 32",
     "1471 44 4c 3d 2c2 2c 4 64 c f 2 f 1 f 1 25 a ae 38 1a 1 2 d 2c 4 9 7 2 e 6 9a 3d8 4",
     "11 3 d 3 77 4 5f 6 c 4 1 f c 4 38 8 a 6 28 8 1e 2 c 4 2 3e 154 c e 2 d 3 a 5 38 7 f",
     "2 b 6 9 7 93 1 66 c0407 1 1e 60"],
    [], ["b7 1 204 1 a 1 1 3 1 1 9 1 1 1 9a 1 297 1 e 1 3 1 20 1 323 2 795 1 5ef 3 47 2 cb 2 1",
     "1 4cd 1 d 1 7 4 1 6 1 3 2 1 334 1 1f 1 a 1 2 1 db9 1 18 2 a 1 4 1 1 1 1ac 10 1 3 2 1",
     "1 a 1 d 10 6 1 1 4 4 5b 2 3 1 5a 2 93 10 20 26 9 1 30 28 38 31 f c 33 1 58 19 a 5 60",
     "1f 7301 8 128 a f4 1 a0 1 536e 2 105 2 11a 5 a 1 2d 2 160 3 4 2d 3 9 1a1 1b b9a4 4",
     "16bc 12 1ede 2"]⟩]

end CodeSearch.Unicode.Script
