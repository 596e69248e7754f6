/-!
Simple case folding, Unicode 16.0. Four numbers in base sixteen tell of one run: its first code
point, how many it has, how far apart they stand, and what the first one folds to; the others fold
to code points as far apart.
-/
namespace CodeSearch.Unicode

def foldRuns : List String :=
  ["41 1a 1 61 b5 1 1 3bc c0 17 1 e0 d8 7 1 f8 100 18 2 101 132 3 2 133 139 8 2 13a 14a 17 2",
   "14b 178 1 1 ff 179 3 2 17a 17f 1 1 73 181 1 1 253 182 2 2 183 186 1 1 254 187 1 1 188",
   "189 2 1 256 18b 1 1 18c 18e 1 1 1dd 18f 1 1 259 190 1 1 25b 191 1 1 192 193 1 1 260 194",
   "1 1 263 196 1 1 269 197 1 1 268 198 1 1 199 19c 1 1 26f 19d 1 1 272 19f 1 1 275 1a0 3 2",
   "1a1 1a6 1 1 280 1a7 1 1 1a8 1a9 1 1 283 1ac 1 1 1ad 1ae 1 1 288 1af 1 1 1b0 1b1 2 1 28a",
   "1b3 2 2 1b4 1b7 1 1 292 1b8 1 1 1b9 1bc 1 1 1bd 1c4 1 1 1c6 1c5 1 1 1c6 1c7 1 1 1c9 1c8",
   "1 1 1c9 1ca 1 1 1cc 1cb 9 2 1cc 1de 9 2 1df 1f1 1 1 1f3 1f2 2 2 1f3 1f6 1 1 195 1f7 1 1",
   "1bf 1f8 14 2 1f9 220 1 1 19e 222 9 2 223 23a 1 1 2c65 23b 1 1 23c 23d 1 1 19a 23e 1 1",
   "2c66 241 1 1 242 243 1 1 180 244 1 1 289 245 1 1 28c 246 5 2 247 345 1 1 3b9 370 2 2 371",
   "376 1 1 377 37f 1 1 3f3 386 1 1 3ac 388 3 1 3ad 38c 1 1 3cc 38e 2 1 3cd 391 11 1 3b1 3a3",
   "9 1 3c3 3c2 1 1 3c3 3cf 1 1 3d7 3d0 1 1 3b2 3d1 1 1 3b8 3d5 1 1 3c6 3d6 1 1 3c0 3d8 c 2",
   "3d9 3f0 1 1 3ba 3f1 1 1 3c1 3f4 1 1 3b8 3f5 1 1 3b5 3f7 1 1 3f8 3f9 1 1 3f2 3fa 1 1 3fb",
   "3fd 3 1 37b 400 10 1 450 410 20 1 430 460 11 2 461 48a 1b 2 48b 4c0 1 1 4cf 4c1 7 2 4c2",
   "4d0 30 2 4d1 531 26 1 561 10a0 26 1 2d00 10c7 1 1 2d27 10cd 1 1 2d2d 13f8 6 1 13f0 1c80",
   "1 1 432 1c81 1 1 434 1c82 1 1 43e 1c83 2 1 441 1c85 1 1 442 1c86 1 1 44a 1c87 1 1 463",
   "1c88 1 1 a64b 1c89 1 1 1c8a 1c90 2b 1 10d0 1cbd 3 1 10fd 1e00 4b 2 1e01 1e9b 1 1 1e61",
   "1e9e 1 1 df 1ea0 30 2 1ea1 1f08 8 1 1f00 1f18 6 1 1f10 1f28 8 1 1f20 1f38 8 1 1f30 1f48",
   "6 1 1f40 1f59 4 2 1f51 1f68 8 1 1f60 1f88 8 1 1f80 1f98 8 1 1f90 1fa8 8 1 1fa0 1fb8 2 1",
   "1fb0 1fba 2 1 1f70 1fbc 1 1 1fb3 1fbe 1 1 3b9 1fc8 4 1 1f72 1fcc 1 1 1fc3 1fd3 1 1 390",
   "1fd8 2 1 1fd0 1fda 2 1 1f76 1fe3 1 1 3b0 1fe8 2 1 1fe0 1fea 2 1 1f7a 1fec 1 1 1fe5 1ff8",
   "2 1 1f78 1ffa 2 1 1f7c 1ffc 1 1 1ff3 2126 1 1 3c9 212a 1 1 6b 212b 1 1 e5 2132 1 1 214e",
   "2160 10 1 2170 2183 1 1 2184 24b6 1a 1 24d0 2c00 30 1 2c30 2c60 1 1 2c61 2c62 1 1 26b",
   "2c63 1 1 1d7d 2c64 1 1 27d 2c67 3 2 2c68 2c6d 1 1 251 2c6e 1 1 271 2c6f 1 1 250 2c70 1 1",
   "252 2c72 1 1 2c73 2c75 1 1 2c76 2c7e 2 1 23f 2c80 32 2 2c81 2ceb 2 2 2cec 2cf2 1 1 2cf3",
   "a640 17 2 a641 a680 e 2 a681 a722 7 2 a723 a732 1f 2 a733 a779 2 2 a77a a77d 1 1 1d79",
   "a77e 5 2 a77f a78b 1 1 a78c a78d 1 1 265 a790 2 2 a791 a796 a 2 a797 a7aa 1 1 266 a7ab 1",
   "1 25c a7ac 1 1 261 a7ad 1 1 26c a7ae 1 1 26a a7b0 1 1 29e a7b1 1 1 287 a7b2 1 1 29d a7b3",
   "1 1 ab53 a7b4 8 2 a7b5 a7c4 1 1 a794 a7c5 1 1 282 a7c6 1 1 1d8e a7c7 2 2 a7c8 a7cb 1 1",
   "264 a7cc 1 1 a7cd a7d0 1 1 a7d1 a7d6 3 2 a7d7 a7dc 1 1 19b a7f5 1 1 a7f6 ab70 50 1 13a0",
   "fb06 1 1 fb05 ff21 1a 1 ff41 10400 28 1 10428 104b0 24 1 104d8 10570 13 2 10597 10571 5",
   "2 10598 1057d 7 2 105a4 1058d 3 2 105b4 10595 1 1 105bc 10c80 33 1 10cc0 10d50 16 1",
   "10d70 118a0 20 1 118c0 16e40 20 1 16e60 1e900 22 1 1e922"]

end CodeSearch.Unicode
