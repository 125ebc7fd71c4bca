/-
  DomainScope.Idna.PropertyData
  ─────────────────────────────
  **PROPERTIES THAT DECIDE WHETHER A LABEL IS WELL FORMED.**

  Marks, joining types and bidirectional classes.  Each row is the first and
  the last character of a range in hexadecimal, with a dot between them, or the
  only one.  Characters in none of the bidirectional ranges run from left to
  right.
-/

namespace DomainScope.Idna.PropertyData

/-! ## §1. Marks. -/

/-- The characters of the general category Mark. -/
def marks : String := "
300.36f 483.489 591.5bd 5bf 5c1.5c2 5c4.5c5 5c7 610.61a 64b.65f 670 6d6.6dc 6df.6e4 6e7.6e8
6ea.6ed 711 730.74a 7a6.7b0 7eb.7f3 7fd 816.819 81b.823 825.827 829.82d 859.85b 898.89f 8ca.8e1
8e3.903 93a.93c 93e.94f 951.957 962.963 981.983 9bc 9be.9c4 9c7.9c8 9cb.9cd 9d7 9e2.9e3 9fe
a01.a03 a3c a3e.a42 a47.a48 a4b.a4d a51 a70.a71 a75 a81.a83 abc abe.ac5 ac7.ac9 acb.acd ae2.ae3
afa.aff b01.b03 b3c b3e.b44 b47.b48 b4b.b4d b55.b57 b62.b63 b82 bbe.bc2 bc6.bc8 bca.bcd bd7
c00.c04 c3c c3e.c44 c46.c48 c4a.c4d c55.c56 c62.c63 c81.c83 cbc cbe.cc4 cc6.cc8 cca.ccd cd5.cd6
ce2.ce3 cf3 d00.d03 d3b.d3c d3e.d44 d46.d48 d4a.d4d d57 d62.d63 d81.d83 dca dcf.dd4 dd6 dd8.ddf
df2.df3 e31 e34.e3a e47.e4e eb1 eb4.ebc ec8.ece f18.f19 f35 f37 f39 f3e.f3f f71.f84 f86.f87
f8d.f97 f99.fbc fc6 102b.103e 1056.1059 105e.1060 1062.1064 1067.106d 1071.1074 1082.108d 108f
109a.109d 135d.135f 1712.1715 1732.1734 1752.1753 1772.1773 17b4.17d3 17dd 180b.180d 180f
1885.1886 18a9 1920.192b 1930.193b 1a17.1a1b 1a55.1a5e 1a60.1a7c 1a7f 1ab0.1ace 1b00.1b04
1b34.1b44 1b6b.1b73 1b80.1b82 1ba1.1bad 1be6.1bf3 1c24.1c37 1cd0.1cd2 1cd4.1ce8 1ced 1cf4
1cf7.1cf9 1dc0.1dff 20d0.20f0 2cef.2cf1 2d7f 2de0.2dff 302a.302f 3099.309a a66f.a672 a674.a67d
a69e.a69f a6f0.a6f1 a802 a806 a80b a823.a827 a82c a880.a881 a8b4.a8c5 a8e0.a8f1 a8ff a926.a92d
a947.a953 a980.a983 a9b3.a9c0 a9e5 aa29.aa36 aa43 aa4c.aa4d aa7b.aa7d aab0 aab2.aab4 aab7.aab8
aabe.aabf aac1 aaeb.aaef aaf5.aaf6 abe3.abea abec.abed fb1e fe00.fe0f fe20.fe2f 101fd 102e0
10376.1037a 10a01.10a03 10a05.10a06 10a0c.10a0f 10a38.10a3a 10a3f 10ae5.10ae6 10d24.10d27
10eab.10eac 10efd.10eff 10f46.10f50 10f82.10f85 11000.11002 11038.11046 11070 11073.11074
1107f.11082 110b0.110ba 110c2 11100.11102 11127.11134 11145.11146 11173 11180.11182 111b3.111c0
111c9.111cc 111ce.111cf 1122c.11237 1123e 11241 112df.112ea 11300.11303 1133b.1133c 1133e.11344
11347.11348 1134b.1134d 11357 11362.11363 11366.1136c 11370.11374 11435.11446 1145e 114b0.114c3
115af.115b5 115b8.115c0 115dc.115dd 11630.11640 116ab.116b7 1171d.1172b 1182c.1183a 11930.11935
11937.11938 1193b.1193e 11940 11942.11943 119d1.119d7 119da.119e0 119e4 11a01.11a0a 11a33.11a39
11a3b.11a3e 11a47 11a51.11a5b 11a8a.11a99 11c2f.11c36 11c38.11c3f 11c92.11ca7 11ca9.11cb6
11d31.11d36 11d3a 11d3c.11d3d 11d3f.11d45 11d47 11d8a.11d8e 11d90.11d91 11d93.11d97 11ef3.11ef6
11f00.11f01 11f03 11f34.11f3a 11f3e.11f42 13440 13447.13455 16af0.16af4 16b30.16b36 16f4f
16f51.16f87 16f8f.16f92 16fe4 16ff0.16ff1 1bc9d.1bc9e 1cf00.1cf2d 1cf30.1cf46 1d165.1d169
1d16d.1d172 1d17b.1d182 1d185.1d18b 1d1aa.1d1ad 1d242.1d244 1da00.1da36 1da3b.1da6c 1da75 1da84
1da9b.1da9f 1daa1.1daaf 1e000.1e006 1e008.1e018 1e01b.1e021 1e023.1e024 1e026.1e02a 1e08f
1e130.1e136 1e2ae 1e2ec.1e2ef 1e4ec.1e4ef 1e8d0.1e8d6 1e944.1e94a e0100.e01ef"

/-! ## §2. Joining types. -/

/-- Characters that join on both sides. -/
def dualJoining : String := "
620 626 628 62a.62e 633.63f 641.647 649.64a 66e.66f 678.687 69a.6bf 6c1.6c2 6cc 6ce 6d0.6d1
6fa.6fc 6ff 712.714 71a.71d 71f.727 729 72b 72d.72e 74e.758 75c.76a 76d.770 772 775.777 77a.77f
7ca.7ea 841.845 848 84a.853 855 860 862.865 868 886 889.88d 88f 8a0.8a9 8af.8b0 8b3.8b8 8ba.8c8
1807 1820.1878 1887.18a8 18aa a840.a871 10ac0.10ac4 10ad3.10ad6 10ad8.10adc 10ade.10ae0
10aeb.10aee 10b80 10b82 10b86.10b88 10b8a.10b8b 10b8d 10b90 10bad.10bae 10d01.10d21 10d23
10ec3.10ec4 10ec6.10ec7 10f30.10f32 10f34.10f44 10f51.10f53 10f70.10f73 10f76.10f81 10fb0
10fb2.10fb3 10fb8 10fbb.10fbc 10fbe.10fbf 10fc1 10fc4 10fca 1e900.1e943"

/-- Characters that join on the left. -/
def leftJoining : String := "
a872 10acd 10ad7 10d00 10fcb"

/-- Characters that join on the right. -/
def rightJoining : String := "
622.625 627 629 62f.632 648 671.673 675.677 688.699 6c0 6c3.6cb 6cd 6cf 6d2.6d3 6d5 6ee.6ef 710
715.719 71e 728 72a 72c 72f 74d 759.75b 76b.76c 771 773.774 778.779 840 846.847 849 854 856.858
867 869.86a 870.882 88e 8aa.8ac 8ae 8b1.8b2 8b9 10ac5 10ac7 10ac9.10aca 10ace.10ad2 10add 10ae1
10ae4 10aef 10b81 10b83.10b85 10b89 10b8c 10b8e.10b8f 10b91 10ba9.10bac 10d22 10ec2 10f33 10f54
10f74.10f75 10fb4.10fb6 10fb9.10fba 10fbd 10fc2.10fc3 10fc9"

/-- Characters that joining passes through. -/
def transparent : String := "
ad 300.36f 483.489 591.5bd 5bf 5c1.5c2 5c4.5c5 5c7 610.61a 61c 64b.65f 670 6d6.6dc 6df.6e4
6e7.6e8 6ea.6ed 70f 711 730.74a 7a6.7b0 7eb.7f3 7fd 816.819 81b.823 825.827 829.82d 859.85b
897.89f 8ca.8e1 8e3.902 93a 93c 941.948 94d 951.957 962.963 981 9bc 9c1.9c4 9cd 9e2.9e3 9fe
a01.a02 a3c a41.a42 a47.a48 a4b.a4d a51 a70.a71 a75 a81.a82 abc ac1.ac5 ac7.ac8 acd ae2.ae3
afa.aff b01 b3c b3f b41.b44 b4d b55.b56 b62.b63 b82 bc0 bcd c00 c04 c3c c3e.c40 c46.c48 c4a.c4d
c55.c56 c62.c63 c81 cbc cbf cc6 ccc.ccd ce2.ce3 d00.d01 d3b.d3c d41.d44 d4d d62.d63 d81 dca
dd2.dd4 dd6 e31 e34.e3a e47.e4e eb1 eb4.ebc ec8.ece f18.f19 f35 f37 f39 f71.f7e f80.f84 f86.f87
f8d.f97 f99.fbc fc6 102d.1030 1032.1037 1039.103a 103d.103e 1058.1059 105e.1060 1071.1074 1082
1085.1086 108d 109d 135d.135f 1712.1714 1732.1733 1752.1753 1772.1773 17b4.17b5 17b7.17bd 17c6
17c9.17d3 17dd 180b.180d 180f 1885.1886 18a9 1920.1922 1927.1928 1932 1939.193b 1a17.1a18 1a1b
1a56 1a58.1a5e 1a60 1a62 1a65.1a6c 1a73.1a7c 1a7f 1ab0.1add 1ae0.1aeb 1b00.1b03 1b34 1b36.1b3a
1b3c 1b42 1b6b.1b73 1b80.1b81 1ba2.1ba5 1ba8.1ba9 1bab.1bad 1be6 1be8.1be9 1bed 1bef.1bf1
1c2c.1c33 1c36.1c37 1cd0.1cd2 1cd4.1ce0 1ce2.1ce8 1ced 1cf4 1cf8.1cf9 1dc0.1dff 200b 200e.200f
202a.202e 2060.2064 206a.206f 20d0.20f0 2cef.2cf1 2d7f 2de0.2dff 302a.302d 3099.309a a66f.a672
a674.a67d a69e.a69f a6f0.a6f1 a802 a806 a80b a825.a826 a82c a8c4.a8c5 a8e0.a8f1 a8ff a926.a92d
a947.a951 a980.a982 a9b3 a9b6.a9b9 a9bc.a9bd a9e5 aa29.aa2e aa31.aa32 aa35.aa36 aa43 aa4c aa7c
aab0 aab2.aab4 aab7.aab8 aabe.aabf aac1 aaec.aaed aaf6 abe5 abe8 abed fb1e fe00.fe0f fe20.fe2f
feff fff9.fffb 101fd 102e0 10376.1037a 10a01.10a03 10a05.10a06 10a0c.10a0f 10a38.10a3a 10a3f
10ae5.10ae6 10d24.10d27 10d69.10d6d 10eab.10eac 10efa.10eff 10f46.10f50 10f82.10f85 11001
11038.11046 11070 11073.11074 1107f.11081 110b3.110b6 110b9.110ba 110c2 11100.11102 11127.1112b
1112d.11134 11173 11180.11181 111b6.111be 111c9.111cc 111cf 1122f.11231 11234 11236.11237 1123e
11241 112df 112e3.112ea 11300.11301 1133b.1133c 11340 11366.1136c 11370.11374 113bb.113c0 113ce
113d0 113d2 113e1.113e2 11438.1143f 11442.11444 11446 1145e 114b3.114b8 114ba 114bf.114c0
114c2.114c3 115b2.115b5 115bc.115bd 115bf.115c0 115dc.115dd 11633.1163a 1163d 1163f.11640 116ab
116ad 116b0.116b5 116b7 1171d 1171f 11722.11725 11727.1172b 1182f.11837 11839.1183a 1193b.1193c
1193e 11943 119d4.119d7 119da.119db 119e0 11a01.11a0a 11a33.11a38 11a3b.11a3e 11a47 11a51.11a56
11a59.11a5b 11a8a.11a96 11a98.11a99 11b60 11b62.11b64 11b66 11c30.11c36 11c38.11c3d 11c3f
11c92.11ca7 11caa.11cb0 11cb2.11cb3 11cb5.11cb6 11d31.11d36 11d3a 11d3c.11d3d 11d3f.11d45 11d47
11d90.11d91 11d95 11d97 11ef3.11ef4 11f00.11f01 11f36.11f3a 11f40 11f42 11f5a 13430.13440
13447.13455 1611e.16129 1612d.1612f 16af0.16af4 16b30.16b36 16f4f 16f8f.16f92 16fe4 1bc9d.1bc9e
1bca0.1bca3 1cf00.1cf2d 1cf30.1cf46 1d167.1d169 1d173.1d182 1d185.1d18b 1d1aa.1d1ad 1d242.1d244
1da00.1da36 1da3b.1da6c 1da75 1da84 1da9b.1da9f 1daa1.1daaf 1e000.1e006 1e008.1e018 1e01b.1e021
1e023.1e024 1e026.1e02a 1e08f 1e130.1e136 1e2ae 1e2ec.1e2ef 1e4ec.1e4ef 1e5ee.1e5ef 1e6e3 1e6e6
1e6ee.1e6ef 1e6f5 1e8d0.1e8d6 1e944.1e94b e0001 e0020.e007f e0100.e01ef"

/-! ## §3. Bidirectional classes. -/

/-- R: letters that run from right to left. -/
def rightToLeft : String := "
5be 5c0 5c3 5c6 5d0.5ea 5ef.5f4 7c0.7ea 7f4.7f5 7fa 7fe.815 81a 824 828 830.83e 840.858 85e 200f
fb1d fb1f.fb28 fb2a.fb36 fb38.fb3c fb3e fb40.fb41 fb43.fb44 fb46.fb4f 10800.10805 10808
1080a.10835 10837.10838 1083c 1083f.10855 10857.1089e 108a7.108af 108e0.108f2 108f4.108f5
108fb.1091b 10920.10939 1093f 10980.109b7 109bc.109cf 109d2.10a00 10a10.10a13 10a15.10a17
10a19.10a35 10a40.10a48 10a50.10a58 10a60.10a9f 10ac0.10ae4 10aeb.10af6 10b00.10b35 10b40.10b55
10b58.10b72 10b78.10b91 10b99.10b9c 10ba9.10baf 10c00.10c48 10c80.10cb2 10cc0.10cf2 10cfa.10cff
10e80.10ea9 10ead 10eb0.10eb1 10f00.10f27 10f70.10f81 10f86.10f89 10fb0.10fcb 10fe0.10ff6
1e800.1e8c4 1e8c7.1e8cf 1e900.1e943 1e94b 1e950.1e959 1e95e.1e95f"

/-- AL: letters of the Arabic kind. -/
def arabicLetter : String := "
608 60b 60d 61b.64a 66d.66f 671.6d5 6e5.6e6 6ee.6ef 6fa.70d 70f.710 712.72f 74d.7a5 7b1 860.86a
870.88e 8a0.8c9 fb50.fbc2 fbd3.fd3d fd50.fd8f fd92.fdc7 fdf0.fdfc fe70.fe74 fe76.fefc
10d00.10d23 10f30.10f45 10f51.10f59 1ec71.1ecb4 1ed01.1ed3d 1ee00.1ee03 1ee05.1ee1f 1ee21.1ee22
1ee24 1ee27 1ee29.1ee32 1ee34.1ee37 1ee39 1ee3b 1ee42 1ee47 1ee49 1ee4b 1ee4d.1ee4f 1ee51.1ee52
1ee54 1ee57 1ee59 1ee5b 1ee5d 1ee5f 1ee61.1ee62 1ee64 1ee67.1ee6a 1ee6c.1ee72 1ee74.1ee77
1ee79.1ee7c 1ee7e 1ee80.1ee89 1ee8b.1ee9b 1eea1.1eea3 1eea5.1eea9 1eeab.1eebb"

/-- AN: numbers of the Arabic kind. -/
def arabicNumber : String := "
600.605 660.669 66b.66c 6dd 890.891 8e2 10d30.10d39 10e60.10e7e"

/-- EN: European numbers. -/
def europeanNumber : String := "
30.39 b2.b3 b9 6f0.6f9 2070 2074.2079 2080.2089 2488.249b ff10.ff19 102e1.102fb 1d7ce.1d7ff
1f100.1f10a 1fbf0.1fbf9"

/-- ES, CS, ET: separators and terminators of numbers. -/
def numberPunctuation : String := "
2b 2d 207a.207b 208a.208b 2212 fb29 fe62.fe63 ff0b ff0d 2c 2e.2f 3a a0 60c 202f 2044 fe50 fe52
fe55 ff0c ff0e.ff0f ff1a 23.25 a2.a5 b0.b1 58f 609.60a 66a 9f2.9f3 9fb af1 bf9 e3f 17db
2030.2034 20a0.20c0 212e 2213 a838.a839 fe5f fe69.fe6a ff03.ff05 ffe0.ffe1 ffe5.ffe6 11fdd.11fe0
1e2ff"

/-- ON, BN: neutral characters. -/
def neutral : String := "
21.22 26.2a 3b.40 5b.60 7b.7e a1 a6.a9 ab.ac ae.af b4 b6.b8 bb.bf d7 f7 2b9.2ba 2c2.2cf 2d2.2df
2e5.2ed 2ef.2ff 374.375 37e 384.385 387 3f6 58a 58d.58e 606.607 60e.60f 6de 6e9 7f6.7f9 bf3.bf8
bfa c78.c7e f3a.f3d 1390.1399 1400 169b.169c 17f0.17f9 1800.180a 1940 1944.1945 19de.19ff 1fbd
1fbf.1fc1 1fcd.1fcf 1fdd.1fdf 1fed.1fef 1ffd.1ffe 2010.2027 2035.2043 2045.205e 207c.207e
208c.208e 2100.2101 2103.2106 2108.2109 2114 2116.2118 211e.2123 2125 2127 2129 213a.213b
2140.2144 214a.214d 2150.215f 2189.218b 2190.2211 2214.2335 237b.2394 2396.2426 2440.244a
2460.2487 24ea.26ab 26ad.27ff 2900.2b73 2b76.2b95 2b97.2bff 2ce5.2cea 2cf9.2cff 2e00.2e5d
2e80.2e99 2e9b.2ef3 2f00.2fd5 2ff0.2ffb 3001.3004 3008.3020 3030 3036.3037 303d.303f 309b.309c
30a0 30fb 31c0.31e3 321d.321e 3250.325f 327c.327e 32b1.32bf 32cc.32cf 3377.337a 33de.33df 33ff
4dc0.4dff a490.a4c6 a60d.a60f a673 a67e.a67f a700.a721 a788 a828.a82b a874.a877 ab6a.ab6b
fd3e.fd4f fdcf fdfd.fdff fe10.fe19 fe30.fe4f fe51 fe54 fe56.fe5e fe60.fe61 fe64.fe66 fe68 fe6b
ff01.ff02 ff06.ff0a ff1b.ff20 ff3b.ff40 ff5b.ff65 ffe2.ffe4 ffe8.ffee fff9.fffd 10101
10140.1018c 10190.1019c 101a0 1091f 10b39.10b3f 11052.11065 11660.1166c 11fd5.11fdc 11fe1.11ff1
16fe2 1d1e9.1d1ea 1d200.1d241 1d245 1d300.1d356 1d6db 1d715 1d74f 1d789 1d7c3 1eef0.1eef1
1f000.1f02b 1f030.1f093 1f0a0.1f0ae 1f0b1.1f0bf 1f0c1.1f0cf 1f0d1.1f0f5 1f10b.1f10f 1f12f
1f16a.1f16f 1f1ad 1f260.1f265 1f300.1f6d7 1f6dc.1f6ec 1f6f0.1f6fc 1f700.1f776 1f77b.1f7d9
1f7e0.1f7eb 1f7f0 1f800.1f80b 1f810.1f847 1f850.1f859 1f860.1f887 1f890.1f8ad 1f8b0.1f8b1
1f900.1fa53 1fa60.1fa6d 1fa70.1fa7c 1fa80.1fa88 1fa90.1fabd 1fabf.1fac5 1face.1fadb 1fae0.1fae8
1faf0.1faf8 1fb00.1fb92 1fb94.1fbca 0.8 e.1b 7f.84 86.9f ad 180e 200b.200d 2060.2064 206a.206f
feff 1bca0.1bca3 1d173.1d17a e0001 e0020.e007f"

/-- NSM: marks without width. -/
def nonspacing : String := "
300.36f 483.489 591.5bd 5bf 5c1.5c2 5c4.5c5 5c7 610.61a 64b.65f 670 6d6.6dc 6df.6e4 6e7.6e8
6ea.6ed 711 730.74a 7a6.7b0 7eb.7f3 7fd 816.819 81b.823 825.827 829.82d 859.85b 898.89f 8ca.8e1
8e3.902 93a 93c 941.948 94d 951.957 962.963 981 9bc 9c1.9c4 9cd 9e2.9e3 9fe a01.a02 a3c a41.a42
a47.a48 a4b.a4d a51 a70.a71 a75 a81.a82 abc ac1.ac5 ac7.ac8 acd ae2.ae3 afa.aff b01 b3c b3f
b41.b44 b4d b55.b56 b62.b63 b82 bc0 bcd c00 c04 c3c c3e.c40 c46.c48 c4a.c4d c55.c56 c62.c63 c81
cbc ccc.ccd ce2.ce3 d00.d01 d3b.d3c d41.d44 d4d d62.d63 d81 dca dd2.dd4 dd6 e31 e34.e3a e47.e4e
eb1 eb4.ebc ec8.ece f18.f19 f35 f37 f39 f71.f7e f80.f84 f86.f87 f8d.f97 f99.fbc fc6 102d.1030
1032.1037 1039.103a 103d.103e 1058.1059 105e.1060 1071.1074 1082 1085.1086 108d 109d 135d.135f
1712.1714 1732.1733 1752.1753 1772.1773 17b4.17b5 17b7.17bd 17c6 17c9.17d3 17dd 180b.180d 180f
1885.1886 18a9 1920.1922 1927.1928 1932 1939.193b 1a17.1a18 1a1b 1a56 1a58.1a5e 1a60 1a62
1a65.1a6c 1a73.1a7c 1a7f 1ab0.1ace 1b00.1b03 1b34 1b36.1b3a 1b3c 1b42 1b6b.1b73 1b80.1b81
1ba2.1ba5 1ba8.1ba9 1bab.1bad 1be6 1be8.1be9 1bed 1bef.1bf1 1c2c.1c33 1c36.1c37 1cd0.1cd2
1cd4.1ce0 1ce2.1ce8 1ced 1cf4 1cf8.1cf9 1dc0.1dff 20d0.20f0 2cef.2cf1 2d7f 2de0.2dff 302a.302d
3099.309a a66f.a672 a674.a67d a69e.a69f a6f0.a6f1 a802 a806 a80b a825.a826 a82c a8c4.a8c5
a8e0.a8f1 a8ff a926.a92d a947.a951 a980.a982 a9b3 a9b6.a9b9 a9bc.a9bd a9e5 aa29.aa2e aa31.aa32
aa35.aa36 aa43 aa4c aa7c aab0 aab2.aab4 aab7.aab8 aabe.aabf aac1 aaec.aaed aaf6 abe5 abe8 abed
fb1e fe00.fe0f fe20.fe2f 101fd 102e0 10376.1037a 10a01.10a03 10a05.10a06 10a0c.10a0f 10a38.10a3a
10a3f 10ae5.10ae6 10d24.10d27 10eab.10eac 10efd.10eff 10f46.10f50 10f82.10f85 11001 11038.11046
11070 11073.11074 1107f.11081 110b3.110b6 110b9.110ba 110c2 11100.11102 11127.1112b 1112d.11134
11173 11180.11181 111b6.111be 111c9.111cc 111cf 1122f.11231 11234 11236.11237 1123e 11241 112df
112e3.112ea 11300.11301 1133b.1133c 11340 11366.1136c 11370.11374 11438.1143f 11442.11444 11446
1145e 114b3.114b8 114ba 114bf.114c0 114c2.114c3 115b2.115b5 115bc.115bd 115bf.115c0 115dc.115dd
11633.1163a 1163d 1163f.11640 116ab 116ad 116b0.116b5 116b7 1171d.1171f 11722.11725 11727.1172b
1182f.11837 11839.1183a 1193b.1193c 1193e 11943 119d4.119d7 119da.119db 119e0 11a01.11a06
11a09.11a0a 11a33.11a38 11a3b.11a3e 11a47 11a51.11a56 11a59.11a5b 11a8a.11a96 11a98.11a99
11c30.11c36 11c38.11c3d 11c92.11ca7 11caa.11cb0 11cb2.11cb3 11cb5.11cb6 11d31.11d36 11d3a
11d3c.11d3d 11d3f.11d45 11d47 11d90.11d91 11d95 11d97 11ef3.11ef4 11f00.11f01 11f36.11f3a 11f40
11f42 13440 13447.13455 16af0.16af4 16b30.16b36 16f4f 16f8f.16f92 16fe4 1bc9d.1bc9e 1cf00.1cf2d
1cf30.1cf46 1d167.1d169 1d17b.1d182 1d185.1d18b 1d1aa.1d1ad 1d242.1d244 1da00.1da36 1da3b.1da6c
1da75 1da84 1da9b.1da9f 1daa1.1daaf 1e000.1e006 1e008.1e018 1e01b.1e021 1e023.1e024 1e026.1e02a
1e08f 1e130.1e136 1e2ae 1e2ec.1e2ef 1e4ec.1e4ef 1e8d0.1e8d6 1e944.1e94a e0100.e01ef"

/-- The classes of blanks, separators and explicit directions. -/
def excluded : String := "
9.d 1c.20 85 1680 2000.200a 2028.202e 205f 2066.2069 3000"

end DomainScope.Idna.PropertyData
