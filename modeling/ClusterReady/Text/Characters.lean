/-!
# Characters

Hexadecimal digits, sets of characters and the lower case of a text.

A `CharSet` is written as the code points at which membership changes, so a large set with long
runs stays short.  The lower case is that of the full mapping of Unicode: every letter has its own,
the dotted capital I becomes two characters, and a capital sigma at the end of a word becomes the
final form.
-/

namespace ClusterReady.Text

/-- The value of a hexadecimal digit. -/
def hexValue? (c : Char) : Option Nat :=
  if c.isDigit then some (c.toNat - '0'.toNat)
  else if 'a' ≤ c && c ≤ 'f' then some (c.toNat - 'a'.toNat + 10)
  else if 'A' ≤ c && c ≤ 'F' then some (c.toNat - 'A'.toNat + 10)
  else none

/-- The hexadecimal digit of a number below sixteen, in lower case. -/
def hexDigit (n : Nat) : Char :=
  if n < 10 then Char.ofNat ('0'.toNat + n) else Char.ofNat ('a'.toNat + n - 10)

/-- A set of characters: the code points, in ascending order, at which membership changes. -/
structure CharSet where
  changes : List Nat

namespace CharSet

def contains (s : CharSet) (c : Char) : Bool :=
  (s.changes.takeWhile (· ≤ c.toNat)).length % 2 = 1

/-- The set whose changes are the hexadecimal numbers on these lines, a blank between two. -/
def ofHex (lines : List String) : CharSet :=
  ⟨lines.flatMap fun line => (line.splitOn " ").map fun word =>
    word.toList.foldl (fun n c => n * 16 + (hexValue? c).getD 0) 0⟩

end CharSet

/-- The letters from `first` to `last`, `step` apart, whose lower case is `shift` further on. -/
structure CaseRun where
  first : Nat
  last : Nat
  step : Nat
  shift : Int

def CaseRun.contains (r : CaseRun) (n : Nat) : Bool :=
  r.first ≤ n && n ≤ r.last && (n - r.first) % r.step == 0

/-- The capital letters with a lower case of one character. -/
def caseRuns : List CaseRun := [
  ⟨0x41, 0x5a, 1, 32⟩, ⟨0xc0, 0xd6, 1, 32⟩, ⟨0xd8, 0xde, 1, 32⟩,
  ⟨0x100, 0x12e, 2, 1⟩, ⟨0x132, 0x136, 2, 1⟩, ⟨0x139, 0x147, 2, 1⟩,
  ⟨0x14a, 0x176, 2, 1⟩, ⟨0x178, 0x178, 1, -121⟩, ⟨0x179, 0x17d, 2, 1⟩, ⟨0x181, 0x181, 1, 210⟩,
  ⟨0x182, 0x184, 2, 1⟩, ⟨0x186, 0x186, 1, 206⟩, ⟨0x187, 0x187, 1, 1⟩, ⟨0x189, 0x18a, 1, 205⟩,
  ⟨0x18b, 0x18b, 1, 1⟩, ⟨0x18e, 0x18e, 1, 79⟩, ⟨0x18f, 0x18f, 1, 202⟩, ⟨0x190, 0x190, 1, 203⟩,
  ⟨0x191, 0x191, 1, 1⟩, ⟨0x193, 0x193, 1, 205⟩, ⟨0x194, 0x194, 1, 207⟩, ⟨0x196, 0x196, 1, 211⟩,
  ⟨0x197, 0x197, 1, 209⟩, ⟨0x198, 0x198, 1, 1⟩, ⟨0x19c, 0x19c, 1, 211⟩, ⟨0x19d, 0x19d, 1, 213⟩,
  ⟨0x19f, 0x19f, 1, 214⟩, ⟨0x1a0, 0x1a4, 2, 1⟩, ⟨0x1a6, 0x1a6, 1, 218⟩, ⟨0x1a7, 0x1a7, 1, 1⟩,
  ⟨0x1a9, 0x1a9, 1, 218⟩, ⟨0x1ac, 0x1ac, 1, 1⟩, ⟨0x1ae, 0x1ae, 1, 218⟩, ⟨0x1af, 0x1af, 1, 1⟩,
  ⟨0x1b1, 0x1b2, 1, 217⟩, ⟨0x1b3, 0x1b5, 2, 1⟩, ⟨0x1b7, 0x1b7, 1, 219⟩, ⟨0x1b8, 0x1b8, 1, 1⟩,
  ⟨0x1bc, 0x1bc, 1, 1⟩, ⟨0x1c4, 0x1c4, 1, 2⟩, ⟨0x1c5, 0x1c5, 1, 1⟩, ⟨0x1c7, 0x1c7, 1, 2⟩,
  ⟨0x1c8, 0x1c8, 1, 1⟩, ⟨0x1ca, 0x1ca, 1, 2⟩, ⟨0x1cb, 0x1db, 2, 1⟩, ⟨0x1de, 0x1ee, 2, 1⟩,
  ⟨0x1f1, 0x1f1, 1, 2⟩, ⟨0x1f2, 0x1f4, 2, 1⟩, ⟨0x1f6, 0x1f6, 1, -97⟩, ⟨0x1f7, 0x1f7, 1, -56⟩,
  ⟨0x1f8, 0x21e, 2, 1⟩, ⟨0x220, 0x220, 1, -130⟩, ⟨0x222, 0x232, 2, 1⟩, ⟨0x23a, 0x23a, 1, 10795⟩,
  ⟨0x23b, 0x23b, 1, 1⟩, ⟨0x23d, 0x23d, 1, -163⟩, ⟨0x23e, 0x23e, 1, 10792⟩, ⟨0x241, 0x241, 1, 1⟩,
  ⟨0x243, 0x243, 1, -195⟩, ⟨0x244, 0x244, 1, 69⟩, ⟨0x245, 0x245, 1, 71⟩, ⟨0x246, 0x24e, 2, 1⟩,
  ⟨0x370, 0x372, 2, 1⟩, ⟨0x376, 0x376, 1, 1⟩, ⟨0x37f, 0x37f, 1, 116⟩, ⟨0x386, 0x386, 1, 38⟩,
  ⟨0x388, 0x38a, 1, 37⟩, ⟨0x38c, 0x38c, 1, 64⟩, ⟨0x38e, 0x38f, 1, 63⟩, ⟨0x391, 0x3a1, 1, 32⟩,
  ⟨0x3a3, 0x3ab, 1, 32⟩, ⟨0x3cf, 0x3cf, 1, 8⟩, ⟨0x3d8, 0x3ee, 2, 1⟩, ⟨0x3f4, 0x3f4, 1, -60⟩,
  ⟨0x3f7, 0x3f7, 1, 1⟩, ⟨0x3f9, 0x3f9, 1, -7⟩, ⟨0x3fa, 0x3fa, 1, 1⟩, ⟨0x3fd, 0x3ff, 1, -130⟩,
  ⟨0x400, 0x40f, 1, 80⟩, ⟨0x410, 0x42f, 1, 32⟩, ⟨0x460, 0x480, 2, 1⟩, ⟨0x48a, 0x4be, 2, 1⟩,
  ⟨0x4c0, 0x4c0, 1, 15⟩, ⟨0x4c1, 0x4cd, 2, 1⟩, ⟨0x4d0, 0x52e, 2, 1⟩, ⟨0x531, 0x556, 1, 48⟩,
  ⟨0x10a0, 0x10c5, 1, 7264⟩, ⟨0x10c7, 0x10c7, 1, 7264⟩, ⟨0x10cd, 0x10cd, 1, 7264⟩,
  ⟨0x13a0, 0x13ef, 1, 38864⟩, ⟨0x13f0, 0x13f5, 1, 8⟩, ⟨0x1c89, 0x1c89, 1, 1⟩,
  ⟨0x1c90, 0x1cba, 1, -3008⟩, ⟨0x1cbd, 0x1cbf, 1, -3008⟩, ⟨0x1e00, 0x1e94, 2, 1⟩,
  ⟨0x1e9e, 0x1e9e, 1, -7615⟩, ⟨0x1ea0, 0x1efe, 2, 1⟩, ⟨0x1f08, 0x1f0f, 1, -8⟩,
  ⟨0x1f18, 0x1f1d, 1, -8⟩, ⟨0x1f28, 0x1f2f, 1, -8⟩, ⟨0x1f38, 0x1f3f, 1, -8⟩,
  ⟨0x1f48, 0x1f4d, 1, -8⟩, ⟨0x1f59, 0x1f5f, 2, -8⟩, ⟨0x1f68, 0x1f6f, 1, -8⟩,
  ⟨0x1f88, 0x1f8f, 1, -8⟩, ⟨0x1f98, 0x1f9f, 1, -8⟩, ⟨0x1fa8, 0x1faf, 1, -8⟩,
  ⟨0x1fb8, 0x1fb9, 1, -8⟩, ⟨0x1fba, 0x1fbb, 1, -74⟩, ⟨0x1fbc, 0x1fbc, 1, -9⟩,
  ⟨0x1fc8, 0x1fcb, 1, -86⟩, ⟨0x1fcc, 0x1fcc, 1, -9⟩, ⟨0x1fd8, 0x1fd9, 1, -8⟩,
  ⟨0x1fda, 0x1fdb, 1, -100⟩, ⟨0x1fe8, 0x1fe9, 1, -8⟩, ⟨0x1fea, 0x1feb, 1, -112⟩,
  ⟨0x1fec, 0x1fec, 1, -7⟩, ⟨0x1ff8, 0x1ff9, 1, -128⟩, ⟨0x1ffa, 0x1ffb, 1, -126⟩,
  ⟨0x1ffc, 0x1ffc, 1, -9⟩, ⟨0x2126, 0x2126, 1, -7517⟩, ⟨0x212a, 0x212a, 1, -8383⟩,
  ⟨0x212b, 0x212b, 1, -8262⟩, ⟨0x2132, 0x2132, 1, 28⟩, ⟨0x2160, 0x216f, 1, 16⟩,
  ⟨0x2183, 0x2183, 1, 1⟩, ⟨0x24b6, 0x24cf, 1, 26⟩, ⟨0x2c00, 0x2c2f, 1, 48⟩,
  ⟨0x2c60, 0x2c60, 1, 1⟩, ⟨0x2c62, 0x2c62, 1, -10743⟩, ⟨0x2c63, 0x2c63, 1, -3814⟩,
  ⟨0x2c64, 0x2c64, 1, -10727⟩, ⟨0x2c67, 0x2c6b, 2, 1⟩, ⟨0x2c6d, 0x2c6d, 1, -10780⟩,
  ⟨0x2c6e, 0x2c6e, 1, -10749⟩, ⟨0x2c6f, 0x2c6f, 1, -10783⟩, ⟨0x2c70, 0x2c70, 1, -10782⟩,
  ⟨0x2c72, 0x2c72, 1, 1⟩, ⟨0x2c75, 0x2c75, 1, 1⟩, ⟨0x2c7e, 0x2c7f, 1, -10815⟩,
  ⟨0x2c80, 0x2ce2, 2, 1⟩, ⟨0x2ceb, 0x2ced, 2, 1⟩, ⟨0x2cf2, 0x2cf2, 1, 1⟩, ⟨0xa640, 0xa66c, 2, 1⟩,
  ⟨0xa680, 0xa69a, 2, 1⟩, ⟨0xa722, 0xa72e, 2, 1⟩, ⟨0xa732, 0xa76e, 2, 1⟩, ⟨0xa779, 0xa77b, 2, 1⟩,
  ⟨0xa77d, 0xa77d, 1, -35332⟩, ⟨0xa77e, 0xa786, 2, 1⟩, ⟨0xa78b, 0xa78b, 1, 1⟩,
  ⟨0xa78d, 0xa78d, 1, -42280⟩, ⟨0xa790, 0xa792, 2, 1⟩, ⟨0xa796, 0xa7a8, 2, 1⟩,
  ⟨0xa7aa, 0xa7aa, 1, -42308⟩, ⟨0xa7ab, 0xa7ab, 1, -42319⟩, ⟨0xa7ac, 0xa7ac, 1, -42315⟩,
  ⟨0xa7ad, 0xa7ad, 1, -42305⟩, ⟨0xa7ae, 0xa7ae, 1, -42308⟩, ⟨0xa7b0, 0xa7b0, 1, -42258⟩,
  ⟨0xa7b1, 0xa7b1, 1, -42282⟩, ⟨0xa7b2, 0xa7b2, 1, -42261⟩, ⟨0xa7b3, 0xa7b3, 1, 928⟩,
  ⟨0xa7b4, 0xa7c2, 2, 1⟩, ⟨0xa7c4, 0xa7c4, 1, -48⟩, ⟨0xa7c5, 0xa7c5, 1, -42307⟩,
  ⟨0xa7c6, 0xa7c6, 1, -35384⟩, ⟨0xa7c7, 0xa7c9, 2, 1⟩, ⟨0xa7cb, 0xa7cb, 1, -42343⟩,
  ⟨0xa7cc, 0xa7cc, 1, 1⟩, ⟨0xa7d0, 0xa7d0, 1, 1⟩, ⟨0xa7d6, 0xa7da, 2, 1⟩,
  ⟨0xa7dc, 0xa7dc, 1, -42561⟩, ⟨0xa7f5, 0xa7f5, 1, 1⟩, ⟨0xff21, 0xff3a, 1, 32⟩,
  ⟨0x10400, 0x10427, 1, 40⟩, ⟨0x104b0, 0x104d3, 1, 40⟩, ⟨0x10570, 0x1057a, 1, 39⟩,
  ⟨0x1057c, 0x1058a, 1, 39⟩, ⟨0x1058c, 0x10592, 1, 39⟩, ⟨0x10594, 0x10595, 1, 39⟩,
  ⟨0x10c80, 0x10cb2, 1, 64⟩, ⟨0x10d50, 0x10d65, 1, 32⟩, ⟨0x118a0, 0x118bf, 1, 32⟩,
  ⟨0x16e40, 0x16e5f, 1, 32⟩, ⟨0x1e900, 0x1e921, 1, 34⟩
]

/-- The characters with the property Cased. -/
def cased : CharSet := .ofHex [
  "41 5b 61 7b aa ab b5 b6 ba bb c0 d7 d8 f7 f8 1bb 1bc 1c0 1c4 294 295 2b9 2c0 2c2 2e0 2e5 345",
  "346 370 374 376 378 37a 37e 37f 380 386 387 388 38b 38c 38d 38e 3a2 3a3 3f6 3f7 482 48a 530",
  "531 557 560 589 10a0 10c6 10c7 10c8 10cd 10ce 10d0 10fb 10fc 1100 13a0 13f6 13f8 13fe 1c80",
  "1c89 1c90 1cbb 1cbd 1cc0 1d00 1dc0 1e00 1f16 1f18 1f1e 1f20 1f46 1f48 1f4e 1f50 1f58 1f59",
  "1f5a 1f5b 1f5c 1f5d 1f5e 1f5f 1f7e 1f80 1fb5 1fb6 1fbd 1fbe 1fbf 1fc2 1fc5 1fc6 1fcd 1fd0",
  "1fd4 1fd6 1fdc 1fe0 1fed 1ff2 1ff5 1ff6 1ffd 2071 2072 207f 2080 2090 209d 2102 2103 2107",
  "2108 210a 2114 2115 2116 2119 211e 2124 2125 2126 2127 2128 2129 212a 212e 212f 2135 2139",
  "213a 213c 2140 2145 214a 214e 214f 2160 2180 2183 2185 24b6 24ea 2c00 2ce5 2ceb 2cef 2cf2",
  "2cf4 2d00 2d26 2d27 2d28 2d2d 2d2e a640 a66e a680 a69e a722 a788 a78b a78f a790 a7cb a7d0",
  "a7d2 a7d3 a7d4 a7d5 a7da a7f2 a7f7 a7f8 a7fb ab30 ab5b ab5c ab6a ab70 abc0 fb00 fb07 fb13",
  "fb18 ff21 ff3b ff41 ff5b 10400 10450 104b0 104d4 104d8 104fc 10570 1057b 1057c 1058b 1058c",
  "10593 10594 10596 10597 105a2 105a3 105b2 105b3 105ba 105bb 105bd 10780 10781 10783 10786",
  "10787 107b1 107b2 107bb 10c80 10cb3 10cc0 10cf3 118a0 118e0 16e40 16e80 1d400 1d455 1d456",
  "1d49d 1d49e 1d4a0 1d4a2 1d4a3 1d4a5 1d4a7 1d4a9 1d4ad 1d4ae 1d4ba 1d4bb 1d4bc 1d4bd 1d4c4",
  "1d4c5 1d506 1d507 1d50b 1d50d 1d515 1d516 1d51d 1d51e 1d53a 1d53b 1d53f 1d540 1d545 1d546",
  "1d547 1d54a 1d551 1d552 1d6a6 1d6a8 1d6c1 1d6c2 1d6db 1d6dc 1d6fb 1d6fc 1d715 1d716 1d735",
  "1d736 1d74f 1d750 1d76f 1d770 1d789 1d78a 1d7a9 1d7aa 1d7c3 1d7c4 1d7cc 1df00 1df0a 1df0b",
  "1df1f 1df25 1df2b 1e030 1e06e 1e900 1e944 1f130 1f14a 1f150 1f16a 1f170 1f18a"]

/-- The characters with the property Case_Ignorable. -/
def caseIgnorable : CharSet := .ofHex [
  "27 28 2e 2f 3a 3b 5e 5f 60 61 a8 a9 ad ae af b0 b4 b5 b7 b9 2b0 370 374 376 37a 37b 384 386",
  "387 388 483 48a 559 55a 55f 560 591 5be 5bf 5c0 5c1 5c3 5c4 5c6 5c7 5c8 5f4 5f5 600 606 610",
  "61b 61c 61d 640 641 64b 660 670 671 6d6 6de 6df 6e9 6ea 6ee 70f 710 711 712 730 74b 7a6 7b1",
  "7eb 7f6 7fa 7fb 7fd 7fe 816 82e 859 85c 888 889 890 892 898 8a0 8c9 903 93a 93b 93c 93d 941",
  "949 94d 94e 951 958 962 964 971 972 981 982 9bc 9bd 9c1 9c5 9cd 9ce 9e2 9e4 9fe 9ff a01 a03",
  "a3c a3d a41 a43 a47 a49 a4b a4e a51 a52 a70 a72 a75 a76 a81 a83 abc abd ac1 ac6 ac7 ac9 acd",
  "ace ae2 ae4 afa b00 b01 b02 b3c b3d b3f b40 b41 b45 b4d b4e b55 b57 b62 b64 b82 b83 bc0 bc1",
  "bcd bce c00 c01 c04 c05 c3c c3d c3e c41 c46 c49 c4a c4e c55 c57 c62 c64 c81 c82 cbc cbd cbf",
  "cc0 cc6 cc7 ccc cce ce2 ce4 d00 d02 d3b d3d d41 d45 d4d d4e d62 d64 d81 d82 dca dcb dd2 dd5",
  "dd6 dd7 e31 e32 e34 e3b e46 e4f eb1 eb2 eb4 ebd ec6 ec7 ec8 ecf f18 f1a f35 f36 f37 f38 f39",
  "f3a f71 f7f f80 f85 f86 f88 f8d f98 f99 fbd fc6 fc7 102d 1031 1032 1038 1039 103b 103d 103f",
  "1058 105a 105e 1061 1071 1075 1082 1083 1085 1087 108d 108e 109d 109e 10fc 10fd 135d 1360",
  "1712 1715 1732 1734 1752 1754 1772 1774 17b4 17b6 17b7 17be 17c6 17c7 17c9 17d4 17d7 17d8",
  "17dd 17de 180b 1810 1843 1844 1885 1887 18a9 18aa 1920 1923 1927 1929 1932 1933 1939 193c",
  "1a17 1a19 1a1b 1a1c 1a56 1a57 1a58 1a5f 1a60 1a61 1a62 1a63 1a65 1a6d 1a73 1a7d 1a7f 1a80",
  "1aa7 1aa8 1ab0 1acf 1b00 1b04 1b34 1b35 1b36 1b3b 1b3c 1b3d 1b42 1b43 1b6b 1b74 1b80 1b82",
  "1ba2 1ba6 1ba8 1baa 1bab 1bae 1be6 1be7 1be8 1bea 1bed 1bee 1bef 1bf2 1c2c 1c34 1c36 1c38",
  "1c78 1c7e 1cd0 1cd3 1cd4 1ce1 1ce2 1ce9 1ced 1cee 1cf4 1cf5 1cf8 1cfa 1d2c 1d6b 1d78 1d79",
  "1d9b 1e00 1fbd 1fbe 1fbf 1fc2 1fcd 1fd0 1fdd 1fe0 1fed 1ff0 1ffd 1fff 200b 2010 2018 201a",
  "2024 2025 2027 2028 202a 202f 2060 2065 2066 2070 2071 2072 207f 2080 2090 209d 20d0 20f1",
  "2c7c 2c7e 2cef 2cf2 2d6f 2d70 2d7f 2d80 2de0 2e00 2e2f 2e30 3005 3006 302a 302e 3031 3036",
  "303b 303c 3099 309f 30fc 30ff a015 a016 a4f8 a4fe a60c a60d a66f a673 a674 a67e a67f a680",
  "a69c a6a0 a6f0 a6f2 a700 a722 a770 a771 a788 a78b a7f2 a7f5 a7f8 a7fa a802 a803 a806 a807",
  "a80b a80c a825 a827 a82c a82d a8c4 a8c6 a8e0 a8f2 a8ff a900 a926 a92e a947 a952 a980 a983",
  "a9b3 a9b4 a9b6 a9ba a9bc a9be a9cf a9d0 a9e5 a9e7 aa29 aa2f aa31 aa33 aa35 aa37 aa43 aa44",
  "aa4c aa4d aa70 aa71 aa7c aa7d aab0 aab1 aab2 aab5 aab7 aab9 aabe aac0 aac1 aac2 aadd aade",
  "aaec aaee aaf3 aaf5 aaf6 aaf7 ab5b ab60 ab69 ab6c abe5 abe6 abe8 abe9 abed abee fb1e fb1f",
  "fbb2 fbc3 fe00 fe10 fe13 fe14 fe20 fe30 fe52 fe53 fe55 fe56 feff ff00 ff07 ff08 ff0e ff0f",
  "ff1a ff1b ff3e ff3f ff40 ff41 ff70 ff71 ff9e ffa0 ffe3 ffe4 fff9 fffc 101fd 101fe 102e0",
  "102e1 10376 1037b 10780 10786 10787 107b1 107b2 107bb 10a01 10a04 10a05 10a07 10a0c 10a10",
  "10a38 10a3b 10a3f 10a40 10ae5 10ae7 10d24 10d28 10eab 10ead 10efd 10f00 10f46 10f51 10f82",
  "10f86 11001 11002 11038 11047 11070 11071 11073 11075 1107f 11082 110b3 110b7 110b9 110bb",
  "110bd 110be 110c2 110c3 110cd 110ce 11100 11103 11127 1112c 1112d 11135 11173 11174 11180",
  "11182 111b6 111bf 111c9 111cd 111cf 111d0 1122f 11232 11234 11235 11236 11238 1123e 1123f",
  "11241 11242 112df 112e0 112e3 112eb 11300 11302 1133b 1133d 11340 11341 11366 1136d 11370",
  "11375 11438 11440 11442 11445 11446 11447 1145e 1145f 114b3 114b9 114ba 114bb 114bf 114c1",
  "114c2 114c4 115b2 115b6 115bc 115be 115bf 115c1 115dc 115de 11633 1163b 1163d 1163e 1163f",
  "11641 116ab 116ac 116ad 116ae 116b0 116b6 116b7 116b8 1171d 11720 11722 11726 11727 1172c",
  "1182f 11838 11839 1183b 1193b 1193d 1193e 1193f 11943 11944 119d4 119d8 119da 119dc 119e0",
  "119e1 11a01 11a0b 11a33 11a39 11a3b 11a3f 11a47 11a48 11a51 11a57 11a59 11a5c 11a8a 11a97",
  "11a98 11a9a 11c30 11c37 11c38 11c3e 11c3f 11c40 11c92 11ca8 11caa 11cb1 11cb2 11cb4 11cb5",
  "11cb7 11d31 11d37 11d3a 11d3b 11d3c 11d3e 11d3f 11d46 11d47 11d48 11d90 11d92 11d95 11d96",
  "11d97 11d98 11ef3 11ef5 11f00 11f02 11f36 11f3b 11f40 11f41 11f42 11f43 13430 13441 13447",
  "13456 16af0 16af5 16b30 16b37 16b40 16b44 16f4f 16f50 16f8f 16fa0 16fe0 16fe2 16fe3 16fe5",
  "1aff0 1aff4 1aff5 1affc 1affd 1afff 1bc9d 1bc9f 1bca0 1bca4 1cf00 1cf2e 1cf30 1cf47 1d167",
  "1d16a 1d173 1d183 1d185 1d18c 1d1aa 1d1ae 1d242 1d245 1da00 1da37 1da3b 1da6d 1da75 1da76",
  "1da84 1da85 1da9b 1daa0 1daa1 1dab0 1e000 1e007 1e008 1e019 1e01b 1e022 1e023 1e025 1e026",
  "1e02b 1e030 1e06e 1e08f 1e090 1e130 1e13e 1e2ae 1e2af 1e2ec 1e2f0 1e4eb 1e4f0 1e8d0 1e8d7",
  "1e944 1e94c 1f3fb 1f400 e0001 e0002 e0020 e0080 e0100 e01f0"]

/-- The lower case of one character, which is not a capital sigma. -/
def lowerChar (c : Char) : List Char :=
  if c.toNat < 0x80 then [c.toLower]
  else if c.toNat = 0x130 then ['i', '\u0307']
  else
    match caseRuns.find? (·.contains c.toNat) with
    | some run => [Char.ofNat ((c.toNat : Int) + run.shift).toNat]
    | none => [c]

/-- Whether the first character that counts for the case of its neighbours is a letter. -/
def cased? (cs : List Char) : Bool :=
  match cs.dropWhile caseIgnorable.contains with
  | c :: _ => cased.contains c
  | [] => false

/-- The lower case of a text of which `before` has been read, latest first. -/
def lowerFrom (before : List Char) : List Char → List Char
  | [] => []
  | c :: rest =>
    (if c.toNat = 0x3A3 then (if cased? before && !cased? rest then ['ς'] else ['σ'])
      else lowerChar c) ++ lowerFrom (c :: before) rest

/-- The lower case of a text. -/
def lower (s : String) : String := String.ofList (lowerFrom [] s.toList)

end ClusterReady.Text
