import Polyglot.Unicode.CharSet

/-!
# Properties with two values

The sets of characters that have a property which a character either has or lacks. White space has
a module of its own.
-/

namespace Polyglot.Unicode.Property

def asciiHexDigit : CharSet := .ofTable ["30+9 41+5 61+5"]

def alphabetic : CharSet := .ofTable [
  "41+19 61+19 aa b5 ba c0+16 d8+1e f8+1c9 2c6+b 2e0+4 2ec 2ee 345 363+11 376+1 37a+3 37f 386",
  "388+2 38c 38e+13 3a3+52 3f7+8a 48a+a5 531+25 559 560+28 5b0+d 5bf 5c1+1 5c4+1 5c7 5d0+1a",
  "5ef+3 610+a 620+37 659+6 66e+65 6d5+7 6e1+7 6ed+2 6fa+2 6ff 710+2f 74d+64 7ca+20 7f4+1 7fa",
  "800+17 81a+12 840+18 860+a 870+17 889+6 897 8a0+29 8d4+b 8e3+6 8f0+4b 93d+f 94e+2 955+e",
  "971+12 985+7 98f+1 993+15 9aa+6 9b2 9b6+3 9bd+7 9c7+1 9cb+1 9ce 9d7 9dc+1 9df+4 9f0+1 9fc",
  "a01+2 a05+5 a0f+1 a13+15 a2a+6 a32+1 a35+1 a38+1 a3e+4 a47+1 a4b+1 a51 a59+3 a5e a70+5 a81+2",
  "a85+8 a8f+2 a93+15 aaa+6 ab2+1 ab5+4 abd+8 ac7+2 acb+1 ad0 ae0+3 af9+3 b01+2 b05+7 b0f+1",
  "b13+15 b2a+6 b32+1 b35+4 b3d+7 b47+1 b4b+1 b56+1 b5c+1 b5f+4 b71 b82+1 b85+5 b8e+2 b92+3",
  "b99+1 b9c b9e+1 ba3+1 ba8+2 bae+b bbe+4 bc6+2 bca+2 bd0 bd7 c00+c c0e+2 c12+16 c2a+f c3d+7",
  "c46+2 c4a+2 c55+1 c58+2 c5c+1 c60+3 c80+3 c85+7 c8e+2 c92+16 caa+9 cb5+4 cbd+7 cc6+2 cca+2",
  "cd5+1 cdc+2 ce0+3 cf1+2 d00+c d0e+2 d12+28 d3d+7 d46+2 d4a+2 d4e d54+3 d5f+4 d7a+5 d81+2",
  "d85+11 d9a+17 db3+8 dbd dc0+6 dcf+5 dd6 dd8+7 df2+1 e01+39 e40+6 e4d e81+1 e84 e86+4 e8c+17",
  "ea5 ea7+12 ebb+2 ec0+4 ec6 ecd edc+3 f00 f40+7 f49+23 f71+12 f88+f f99+23 1000+36 1038",
  "103b+4 1050+3f 109a+3 10a0+25 10c7 10cd 10d0+2a 10fc+14c 124a+3 1250+6 1258 125a+3 1260+28",
  "128a+3 1290+20 12b2+3 12b8+6 12c0 12c2+3 12c8+e 12d8+38 1312+3 1318+42 1380+f 13a0+55 13f8+5",
  "1401+26b 166f+10 1681+19 16a0+4a 16ee+a 1700+13 171f+14 1740+13 1760+c 176e+2 1772+1 1780+33",
  "17b6+12 17d7 17dc 1820+58 1880+2a 18b0+45 1900+1e 1920+b 1930+8 1950+1d 1970+4 1980+2b",
  "19b0+19 1a00+1b 1a20+3e 1a61+13 1aa7 1abf+1 1acc+2 1b00+33 1b35+e 1b45+7 1b80+29 1bac+3",
  "1bba+2b 1be7+a 1c00+36 1c4d+2 1c5a+23 1c80+a 1c90+2a 1cbd+2 1ce9+3 1cee+5 1cf5+1 1cfa",
  "1d00+bf 1dd3+21 1e00+115 1f18+5 1f20+25 1f48+5 1f50+7 1f59 1f5b 1f5d 1f5f+1e 1f80+34 1fb6+6",
  "1fbe 1fc2+2 1fc6+6 1fd0+3 1fd6+5 1fe0+c 1ff2+2 1ff6+6 2071 207f 2090+c 2102 2107 210a+9 2115",
  "2119+4 2124 2126 2128 212a+3 212f+a 213c+3 2145+4 214e 2160+28 24b6+33 2c00+e4 2ceb+3 2cf2+1",
  "2d00+25 2d27 2d2d 2d30+37 2d6f 2d80+16 2da0+6 2da8+6 2db0+6 2db8+6 2dc0+6 2dc8+6 2dd0+6",
  "2dd8+6 2de0+1f 2e2f 3005+2 3021+8 3031+4 3038+4 3041+55 309d+2 30a1+59 30fc+3 3105+2a",
  "3131+5d 31a0+1f 31f0+f 3400+19bf 4e00+568c a4d0+2d a500+10c a610+f a62a+1 a640+2e a674+7",
  "a67f+70 a717+8 a722+66 a78b+51 a7f1+14 a807+20 a840+33 a880+43 a8c5 a8f2+5 a8fb a8fd+2",
  "a90a+20 a930+22 a960+1c a980+32 a9b4+b a9cf a9e0+f a9fa+4 aa00+36 aa40+d aa60+16 aa7a+44",
  "aac0 aac2 aadb+2 aae0+f aaf2+3 ab01+5 ab09+5 ab11+5 ab20+6 ab28+6 ab30+2a ab5c+d ab70+7a",
  "ac00+2ba3 d7b0+16 d7cb+30 f900+16d fa70+69 fb00+6 fb13+4 fb1d+b fb2a+c fb38+4 fb3e fb40+1",
  "fb43+1 fb46+6b fbd3+16a fd50+3f fd92+35 fdf0+b fe70+4 fe76+86 ff21+19 ff41+19 ff66+58 ffc2+5",
  "ffca+5 ffd2+5 ffda+2 10000+b 1000d+19 10028+12 1003c+1 1003f+e 10050+d 10080+7a 10140+34",
  "10280+1c 102a0+30 10300+1f 1032d+1d 10350+2a 10380+1d 103a0+23 103c8+7 103d1+4 10400+9d",
  "104b0+23 104d8+23 10500+27 10530+33 10570+a 1057c+e 1058c+6 10594+1 10597+a 105a3+e 105b3+6",
  "105bb+1 105c0+33 10600+136 10740+15 10760+7 10780+5 10787+29 107b2+8 10800+5 10808 1080a+2b",
  "10837+1 1083c 1083f+16 10860+16 10880+1e 108e0+12 108f4+1 10900+15 10920+19 10940+19",
  "10980+37 109be+1 10a00+3 10a05+1 10a0c+7 10a15+2 10a19+1c 10a60+1c 10a80+1c 10ac0+7 10ac9+1b",
  "10b00+35 10b40+15 10b60+12 10b80+11 10c00+48 10c80+32 10cc0+32 10d00+27 10d4a+1b 10d69",
  "10d6f+16 10e80+29 10eab+1 10eb0+1 10ec2+5 10efa+2 10f00+1c 10f27 10f30+15 10f70+11 10fb0+14",
  "10fe0+16 11000+45 11071+4 11080+38 110c2 110d0+18 11100+32 11144+3 11150+22 11176 11180+3f",
  "111c1+3 111ce+1 111da 111dc 11200+11 11213+21 11237 1123e+3 11280+6 11288 1128a+3 1128f+e",
  "1129f+9 112b0+38 11300+3 11305+7 1130f+1 11313+15 1132a+6 11332+1 11335+4 1133d+7 11347+1",
  "1134b+1 11350 11357 1135d+6 11380+9 1138b 1138e 11390+25 113b7+9 113c2 113c5 113c7+3 113cc+1",
  "113d1 113d3 11400+41 11443+2 11447+3 1145f+2 11480+41 114c4+1 114c7 11580+35 115b8+6 115d8+5",
  "11600+3e 11640 11644 11680+35 116b8 11700+1a 1171d+d 11740+6 11800+38 118a0+3f 118ff+7 11909",
  "1190c+7 11915+1 11918+1d 11937+1 1193b+1 1193f+3 119a0+7 119aa+2d 119da+5 119e1 119e3+1",
  "11a00+32 11a35+9 11a50+47 11a9d 11ab0+48 11b60+7 11bc0+20 11c00+8 11c0a+2c 11c38+6 11c40",
  "11c72+1d 11c92+15 11ca9+d 11d00+6 11d08+1 11d0b+2b 11d3a 11d3c+1 11d3f+2 11d43 11d46+1",
  "11d60+5 11d67+1 11d6a+24 11d90+1 11d93+3 11d98 11db0+2b 11ee0+16 11f00+10 11f12+28 11f3e+2",
  "11fb0 12000+399 12400+6e 12480+c3 12f90+60 13000+42f 13441+5 13460+f9a 14400+246 16100+2e",
  "16800+238 16a40+1e 16a70+4e 16ad0+1d 16b00+2f 16b40+3 16b63+14 16b7d+12 16d40+2c 16e40+3f",
  "16ea0+18 16ebb+18 16f00+4a 16f4f+38 16f8f+10 16fe0+1 16fe3 16ff0+6 17000+1cd5 18cff+1f",
  "18d80+72 1aff0+3 1aff5+6 1affd+1 1b000+122 1b132 1b150+2 1b155 1b164+3 1b170+18b 1bc00+6a",
  "1bc70+c 1bc80+8 1bc90+9 1bc9e 1d400+54 1d456+46 1d49e+1 1d4a2 1d4a5+1 1d4a9+3 1d4ae+b 1d4bb",
  "1d4bd+6 1d4c5+40 1d507+3 1d50d+7 1d516+6 1d51e+1b 1d53b+3 1d540+4 1d546 1d54a+6 1d552+153",
  "1d6a8+18 1d6c2+18 1d6dc+1e 1d6fc+18 1d716+1e 1d736+18 1d750+1e 1d770+18 1d78a+1e 1d7aa+18",
  "1d7c4+7 1df00+1e 1df25+5 1e000+6 1e008+10 1e01b+6 1e023+1 1e026+4 1e030+3d 1e08f 1e100+2c",
  "1e137+6 1e14e 1e290+1d 1e2c0+2b 1e4d0+1b 1e5d0+1d 1e5f0 1e6c0+1e 1e6e0+15 1e6fe+1 1e7e0+6",
  "1e7e8+3 1e7ed+1 1e7f0+e 1e800+c4 1e900+43 1e947 1e94b 1ee00+3 1ee05+1a 1ee21+1 1ee24 1ee27",
  "1ee29+9 1ee34+3 1ee39 1ee3b 1ee42 1ee47 1ee49 1ee4b 1ee4d+2 1ee51+1 1ee54 1ee57 1ee59 1ee5b",
  "1ee5d 1ee5f 1ee61+1 1ee64 1ee67+3 1ee6c+6 1ee74+3 1ee79+3 1ee7e 1ee80+9 1ee8b+10 1eea1+2",
  "1eea5+4 1eeab+10 1f130+19 1f150+19 1f170+19 20000+a6df 2a700+111d 2b820+168d 2ceb0+1d30",
  "2ebf0+26d 2f800+21d 30000+134a 31350+2129"]

def bidiControl : CharSet := .ofTable ["61c 200e+1 202a+4 2066+3"]

def bidiMirrored : CharSet := .ofTable [
  "28+1 3c 3e 5b 5d 7b 7d ab bb f3a+3 169b+1 2039+1 2045+1 207d+1 208d+1 2140 2201+3 2208+5",
  "2211 2215+1 221a+3 221f+3 2224 2226 222b+8 2239 223b+11 2252+3 225f+1 2262 2264+7 226d+1f",
  "228f+3 2298 22a2+1 22a6+12 22be+1 22c9+4 22d0+1 22d6+17 22f0+f 2308+3 2320+1 2329+1 2768+d",
  "27c0 27c3+3 27c8+1 27cb+2 27d3+3 27dc+2 27e2+d 2983+15 299b+5 29a2+d 29b8 29c0+5 29c9 29ce+4",
  "29d4+1 29d8+4 29e1 29e3+2 29e8+1 29f4+5 29fc+1 2a0a+12 2a1e+3 2a24 2a26 2a29 2a2b+3 2a34+1",
  "2a3c+2 2a57+1 2a64+1 2a6a+3 2a6f+1 2a73+1 2a79+2a 2aa6+7 2aaf+27 2adc 2ade 2ae2+4 2aec+2",
  "2af3 2af7+4 2afd 2bfe 2e02+3 2e09+1 2e0c+1 2e1c+1 2e20+9 2e55+7 3008+9 3014+7 fe59+5 fe64+1",
  "ff08+1 ff1c ff1e ff3b ff3d ff5b ff5d ff5f+1 ff62+1 1d6db 1d715 1d74f 1d789 1d7c3"]

def caseIgnorable : CharSet := .ofTable [
  "27 2e 3a 5e 60 a8 ad af b4 b7+1 2b0+bf 374+1 37a 384+1 387 483+6 559 55f 591+2c 5bf 5c1+1",
  "5c4+1 5c7 5f4 600+5 610+a 61c 640 64b+14 670 6d6+7 6df+9 6ea+3 70f 711 730+1a 7a6+a 7eb+a",
  "7fa 7fd 816+17 859+2 888 890+1 897+8 8c9+39 93a 93c 941+7 94d 951+6 962+1 971 981 9bc 9c1+3",
  "9cd 9e2+1 9fe a01+1 a3c a41+1 a47+1 a4b+2 a51 a70+1 a75 a81+1 abc ac1+4 ac7+1 acd ae2+1",
  "afa+5 b01 b3c b3f b41+3 b4d b55+1 b62+1 b82 bc0 bcd c00 c04 c3c c3e+2 c46+2 c4a+3 c55+1",
  "c62+1 c81 cbc cbf cc6 ccc+1 ce2+1 d00+1 d3b+1 d41+3 d4d d62+1 d81 dca dd2+2 dd6 e31 e34+6",
  "e46+8 eb1 eb4+8 ec6 ec8+6 f18+1 f35 f37 f39 f71+d f80+4 f86+1 f8d+a f99+23 fc6 102d+3 1032+5",
  "1039+1 103d+1 1058+1 105e+2 1071+3 1082 1085+1 108d 109d 10fc 135d+2 1712+2 1732+1 1752+1",
  "1772+1 17b4+1 17b7+6 17c6 17c9+a 17d7 17dd 180b+4 1843 1885+1 18a9 1920+2 1927+1 1932 1939+2",
  "1a17+1 1a1b 1a56 1a58+6 1a60 1a62 1a65+7 1a73+9 1a7f 1aa7 1ab0+2d 1ae0+b 1b00+3 1b34 1b36+4",
  "1b3c 1b42 1b6b+8 1b80+1 1ba2+3 1ba8+1 1bab+2 1be6 1be8+1 1bed 1bef+2 1c2c+7 1c36+1 1c78+5",
  "1cd0+2 1cd4+c 1ce2+6 1ced 1cf4 1cf8+1 1d2c+3e 1d78 1d9b+64 1fbd 1fbf+2 1fcd+2 1fdd+2 1fed+2",
  "1ffd+1 200b+4 2018+1 2024 2027 202a+4 2060+4 2066+9 2071 207f 2090+c 20d0+20 2c7c+1 2cef+2",
  "2d6f 2d7f 2de0+1f 2e2f 3005 302a+3 3031+4 303b 3099+5 30fc+2 a015 a4f8+5 a60c a66f+3 a674+9",
  "a67f a69c+3 a6f0+1 a700+21 a770 a788+2 a7f1+3 a7f8+1 a802 a806 a80b a825+1 a82c a8c4+1",
  "a8e0+11 a8ff a926+7 a947+a a980+2 a9b3 a9b6+3 a9bc+1 a9cf a9e5+1 aa29+5 aa31+1 aa35+1 aa43",
  "aa4c aa70 aa7c aab0 aab2+2 aab7+1 aabe+1 aac1 aadd aaec+1 aaf3+1 aaf6 ab5b+4 ab69+2 abe5",
  "abe8 abed fb1e fbb2+10 fe00+f fe13 fe20+f fe52 fe55 feff ff07 ff0e ff1a ff3e ff40 ff70",
  "ff9e+1 ffe3 fff9+2 101fd 102e0 10376+4 10780+5 10787+29 107b2+8 10a01+2 10a05+1 10a0c+3",
  "10a38+2 10a3f 10ae5+1 10d24+3 10d4e 10d69+4 10d6f 10eab+1 10ec5 10efa+5 10f46+a 10f82+3",
  "11001 11038+e 11070 11073+1 1107f+2 110b3+3 110b9+1 110bd 110c2 110cd 11100+2 11127+4",
  "1112d+7 11173 11180+1 111b6+8 111c9+3 111cf 1122f+2 11234 11236+1 1123e 11241 112df 112e3+7",
  "11300+1 1133b+1 11340 11366+6 11370+4 113bb+5 113ce 113d0 113d2 113e1+1 11438+7 11442+2",
  "11446 1145e 114b3+5 114ba 114bf+1 114c2+1 115b2+3 115bc+1 115bf+1 115dc+1 11633+7 1163d",
  "1163f+1 116ab 116ad 116b0+5 116b7 1171d 1171f 11722+3 11727+4 1182f+8 11839+1 1193b+1 1193e",
  "11943 119d4+3 119da+1 119e0 11a01+9 11a33+5 11a3b+3 11a47 11a51+5 11a59+2 11a8a+c 11a98+1",
  "11b60 11b62+2 11b66 11c30+6 11c38+5 11c3f 11c92+15 11caa+6 11cb2+1 11cb5+1 11d31+5 11d3a",
  "11d3c+1 11d3f+6 11d47 11d90+1 11d95 11d97 11dd9 11ef3+1 11f00+1 11f36+4 11f40 11f42 11f5a",
  "13430+10 13447+e 1611e+b 1612d+2 16af0+4 16b30+6 16b40+3 16d40+2 16d6b+1 16f4f 16f8f+10",
  "16fe0+1 16fe3+1 16ff2+1 1aff0+3 1aff5+6 1affd+1 1bc9d+1 1bca0+3 1cf00+2d 1cf30+16 1d167+2",
  "1d173+f 1d185+6 1d1aa+3 1d242+2 1da00+36 1da3b+31 1da75 1da84 1da9b+4 1daa1+e 1e000+6",
  "1e008+10 1e01b+6 1e023+1 1e026+4 1e030+3d 1e08f 1e130+d 1e2ae 1e2ec+3 1e4eb+4 1e5ee+1 1e6e3",
  "1e6e6 1e6ee+1 1e6f5 1e6ff 1e8d0+6 1e944+7 1f3fb+4 e0001 e0020+5f e0100+ef"]

def cased : CharSet := .ofTable [
  "41+19 61+19 aa b5 ba c0+16 d8+1e f8+c2 1bc+3 1c4+cf 296+22 2c0+1 2e0+4 345 370+3 376+1 37a+3",
  "37f 386 388+2 38c 38e+13 3a3+52 3f7+8a 48a+a5 531+25 560+28 10a0+25 10c7 10cd 10d0+2a 10fc+3",
  "13a0+55 13f8+5 1c80+a 1c90+2a 1cbd+2 1d00+bf 1e00+115 1f18+5 1f20+25 1f48+5 1f50+7 1f59 1f5b",
  "1f5d 1f5f+1e 1f80+34 1fb6+6 1fbe 1fc2+2 1fc6+6 1fd0+3 1fd6+5 1fe0+c 1ff2+2 1ff6+6 2071 207f",
  "2090+c 2102 2107 210a+9 2115 2119+4 2124 2126 2128 212a+3 212f+5 2139 213c+3 2145+4 214e",
  "2160+1f 2183+1 24b6+33 2c00+e4 2ceb+3 2cf2+1 2d00+25 2d27 2d2d a640+2d a680+1d a722+65",
  "a78b+3 a790+4c a7f1+5 a7f8+2 ab30+2a ab5c+d ab70+4f fb00+6 fb13+4 ff21+19 ff41+19 10400+4f",
  "104b0+23 104d8+23 10570+a 1057c+e 1058c+6 10594+1 10597+a 105a3+e 105b3+6 105bb+1 10780",
  "10783+2 10787+29 107b2+8 10c80+32 10cc0+32 10d50+15 10d70+15 118a0+3f 16e40+3f 16ea0+18",
  "16ebb+18 1d400+54 1d456+46 1d49e+1 1d4a2 1d4a5+1 1d4a9+3 1d4ae+b 1d4bb 1d4bd+6 1d4c5+40",
  "1d507+3 1d50d+7 1d516+6 1d51e+1b 1d53b+3 1d540+4 1d546 1d54a+6 1d552+153 1d6a8+18 1d6c2+18",
  "1d6dc+1e 1d6fc+18 1d716+1e 1d736+18 1d750+1e 1d770+18 1d78a+1e 1d7aa+18 1d7c4+7 1df00+9",
  "1df0b+13 1df25+5 1e030+3d 1e900+43 1f130+19 1f150+19 1f170+19"]

def changesWhenCasefolded : CharSet := .ofTable [
  "41+19 b5 c0+16 d8+7 100 102 104 106 108 10a 10c 10e 110 112 114 116 118 11a 11c 11e 120 122",
  "124 126 128 12a 12c 12e 130 132 134 136 139 13b 13d 13f 141 143 145 147 149+1 14c 14e 150",
  "152 154 156 158 15a 15c 15e 160 162 164 166 168 16a 16c 16e 170 172 174 176 178+1 17b 17d",
  "17f 181+1 184 186+1 189+2 18e+3 193+1 196+2 19c+1 19f+1 1a2 1a4 1a6+1 1a9 1ac 1ae+1 1b1+2",
  "1b5 1b7+1 1bc 1c4+1 1c7+1 1ca+1 1cd 1cf 1d1 1d3 1d5 1d7 1d9 1db 1de 1e0 1e2 1e4 1e6 1e8 1ea",
  "1ec 1ee 1f1+1 1f4 1f6+2 1fa 1fc 1fe 200 202 204 206 208 20a 20c 20e 210 212 214 216 218 21a",
  "21c 21e 220 222 224 226 228 22a 22c 22e 230 232 23a+1 23d+1 241 243+3 248 24a 24c 24e 345",
  "370 372 376 37f 386 388+2 38c 38e+1 391+10 3a3+8 3c2 3cf+2 3d5+1 3d8 3da 3dc 3de 3e0 3e2 3e4",
  "3e6 3e8 3ea 3ec 3ee 3f0+1 3f4+1 3f7 3f9+1 3fd+32 460 462 464 466 468 46a 46c 46e 470 472 474",
  "476 478 47a 47c 47e 480 48a 48c 48e 490 492 494 496 498 49a 49c 49e 4a0 4a2 4a4 4a6 4a8 4aa",
  "4ac 4ae 4b0 4b2 4b4 4b6 4b8 4ba 4bc 4be 4c0+1 4c3 4c5 4c7 4c9 4cb 4cd 4d0 4d2 4d4 4d6 4d8",
  "4da 4dc 4de 4e0 4e2 4e4 4e6 4e8 4ea 4ec 4ee 4f0 4f2 4f4 4f6 4f8 4fa 4fc 4fe 500 502 504 506",
  "508 50a 50c 50e 510 512 514 516 518 51a 51c 51e 520 522 524 526 528 52a 52c 52e 531+25 587",
  "10a0+25 10c7 10cd 13f8+5 1c80+9 1c90+2a 1cbd+2 1e00 1e02 1e04 1e06 1e08 1e0a 1e0c 1e0e 1e10",
  "1e12 1e14 1e16 1e18 1e1a 1e1c 1e1e 1e20 1e22 1e24 1e26 1e28 1e2a 1e2c 1e2e 1e30 1e32 1e34",
  "1e36 1e38 1e3a 1e3c 1e3e 1e40 1e42 1e44 1e46 1e48 1e4a 1e4c 1e4e 1e50 1e52 1e54 1e56 1e58",
  "1e5a 1e5c 1e5e 1e60 1e62 1e64 1e66 1e68 1e6a 1e6c 1e6e 1e70 1e72 1e74 1e76 1e78 1e7a 1e7c",
  "1e7e 1e80 1e82 1e84 1e86 1e88 1e8a 1e8c 1e8e 1e90 1e92 1e94 1e9a+1 1e9e 1ea0 1ea2 1ea4 1ea6",
  "1ea8 1eaa 1eac 1eae 1eb0 1eb2 1eb4 1eb6 1eb8 1eba 1ebc 1ebe 1ec0 1ec2 1ec4 1ec6 1ec8 1eca",
  "1ecc 1ece 1ed0 1ed2 1ed4 1ed6 1ed8 1eda 1edc 1ede 1ee0 1ee2 1ee4 1ee6 1ee8 1eea 1eec 1eee",
  "1ef0 1ef2 1ef4 1ef6 1ef8 1efa 1efc 1efe 1f08+7 1f18+5 1f28+7 1f38+7 1f48+5 1f59 1f5b 1f5d",
  "1f5f 1f68+7 1f80+2f 1fb2+2 1fb7+5 1fc2+2 1fc7+5 1fd8+3 1fe8+4 1ff2+2 1ff7+5 2126 212a+1 2132",
  "2160+f 2183 24b6+19 2c00+2f 2c60 2c62+2 2c67 2c69 2c6b 2c6d+3 2c72 2c75 2c7e+2 2c82 2c84",
  "2c86 2c88 2c8a 2c8c 2c8e 2c90 2c92 2c94 2c96 2c98 2c9a 2c9c 2c9e 2ca0 2ca2 2ca4 2ca6 2ca8",
  "2caa 2cac 2cae 2cb0 2cb2 2cb4 2cb6 2cb8 2cba 2cbc 2cbe 2cc0 2cc2 2cc4 2cc6 2cc8 2cca 2ccc",
  "2cce 2cd0 2cd2 2cd4 2cd6 2cd8 2cda 2cdc 2cde 2ce0 2ce2 2ceb 2ced 2cf2 a640 a642 a644 a646",
  "a648 a64a a64c a64e a650 a652 a654 a656 a658 a65a a65c a65e a660 a662 a664 a666 a668 a66a",
  "a66c a680 a682 a684 a686 a688 a68a a68c a68e a690 a692 a694 a696 a698 a69a a722 a724 a726",
  "a728 a72a a72c a72e a732 a734 a736 a738 a73a a73c a73e a740 a742 a744 a746 a748 a74a a74c",
  "a74e a750 a752 a754 a756 a758 a75a a75c a75e a760 a762 a764 a766 a768 a76a a76c a76e a779",
  "a77b a77d+1 a780 a782 a784 a786 a78b a78d a790 a792 a796 a798 a79a a79c a79e a7a0 a7a2 a7a4",
  "a7a6 a7a8 a7aa+4 a7b0+4 a7b6 a7b8 a7ba a7bc a7be a7c0 a7c2 a7c4+3 a7c9 a7cb+1 a7ce a7d0 a7d2",
  "a7d4 a7d6 a7d8 a7da a7dc a7f5 ab70+4f fb00+6 fb13+4 ff21+19 10400+27 104b0+23 10570+a",
  "1057c+e 1058c+6 10594+1 10c80+32 10d50+15 118a0+1f 16e40+1f 16ea0+18 1e900+21"]

def changesWhenCasemapped : CharSet := .ofTable [
  "41+19 61+19 b5 c0+16 d8+1e f8+3f 139+53 18e+1b 1ac+d 1bc+1 1bf 1c4+5c 222+11 23a+1a 256+1",
  "259 25b+1 260+1 263+3 268+4 26f 271+1 275 27d 280 282+1 287+5 292 29d+1 345 370+3 376+1",
  "37b+2 37f 386 388+2 38c 38e+13 3a3+2e 3d5+20 3f7+4 3fd+84 48a+a5 531+25 561+26 10a0+25 10c7",
  "10cd 10d0+2a 10fd+2 13a0+55 13f8+5 1c80+a 1c90+2a 1cbd+2 1d79 1d7d 1d8e 1e00+9b 1e9e 1ea0+75",
  "1f18+5 1f20+25 1f48+5 1f50+7 1f59 1f5b 1f5d 1f5f+1e 1f80+34 1fb6+6 1fbe 1fc2+2 1fc6+6 1fd0+3",
  "1fd6+5 1fe0+c 1ff2+2 1ff6+6 2126 212a+1 2132 214e 2160+1f 2183+1 24b6+33 2c00+70 2c72+1",
  "2c75+1 2c7e+65 2ceb+3 2cf2+1 2d00+25 2d27 2d2d a640+2d a680+1b a722+d a732+3d a779+e a78b+2",
  "a790+4 a796+18 a7b0+2c a7f5+1 ab53 ab70+4f fb00+6 fb13+4 ff21+19 ff41+19 10400+4f 104b0+23",
  "104d8+23 10570+a 1057c+e 1058c+6 10594+1 10597+a 105a3+e 105b3+6 105bb+1 10c80+32 10cc0+32",
  "10d50+15 10d70+15 118a0+3f 16e40+3f 16ea0+18 16ebb+18 1e900+43"]

def changesWhenLowercased : CharSet := .ofTable [
  "41+19 c0+16 d8+6 100 102 104 106 108 10a 10c 10e 110 112 114 116 118 11a 11c 11e 120 122 124",
  "126 128 12a 12c 12e 130 132 134 136 139 13b 13d 13f 141 143 145 147 14a 14c 14e 150 152 154",
  "156 158 15a 15c 15e 160 162 164 166 168 16a 16c 16e 170 172 174 176 178+1 17b 17d 181+1 184",
  "186+1 189+2 18e+3 193+1 196+2 19c+1 19f+1 1a2 1a4 1a6+1 1a9 1ac 1ae+1 1b1+2 1b5 1b7+1 1bc",
  "1c4+1 1c7+1 1ca+1 1cd 1cf 1d1 1d3 1d5 1d7 1d9 1db 1de 1e0 1e2 1e4 1e6 1e8 1ea 1ec 1ee 1f1+1",
  "1f4 1f6+2 1fa 1fc 1fe 200 202 204 206 208 20a 20c 20e 210 212 214 216 218 21a 21c 21e 220",
  "222 224 226 228 22a 22c 22e 230 232 23a+1 23d+1 241 243+3 248 24a 24c 24e 370 372 376 37f",
  "386 388+2 38c 38e+1 391+10 3a3+8 3cf 3d8 3da 3dc 3de 3e0 3e2 3e4 3e6 3e8 3ea 3ec 3ee 3f4 3f7",
  "3f9+1 3fd+32 460 462 464 466 468 46a 46c 46e 470 472 474 476 478 47a 47c 47e 480 48a 48c 48e",
  "490 492 494 496 498 49a 49c 49e 4a0 4a2 4a4 4a6 4a8 4aa 4ac 4ae 4b0 4b2 4b4 4b6 4b8 4ba 4bc",
  "4be 4c0+1 4c3 4c5 4c7 4c9 4cb 4cd 4d0 4d2 4d4 4d6 4d8 4da 4dc 4de 4e0 4e2 4e4 4e6 4e8 4ea",
  "4ec 4ee 4f0 4f2 4f4 4f6 4f8 4fa 4fc 4fe 500 502 504 506 508 50a 50c 50e 510 512 514 516 518",
  "51a 51c 51e 520 522 524 526 528 52a 52c 52e 531+25 10a0+25 10c7 10cd 13a0+55 1c89 1c90+2a",
  "1cbd+2 1e00 1e02 1e04 1e06 1e08 1e0a 1e0c 1e0e 1e10 1e12 1e14 1e16 1e18 1e1a 1e1c 1e1e 1e20",
  "1e22 1e24 1e26 1e28 1e2a 1e2c 1e2e 1e30 1e32 1e34 1e36 1e38 1e3a 1e3c 1e3e 1e40 1e42 1e44",
  "1e46 1e48 1e4a 1e4c 1e4e 1e50 1e52 1e54 1e56 1e58 1e5a 1e5c 1e5e 1e60 1e62 1e64 1e66 1e68",
  "1e6a 1e6c 1e6e 1e70 1e72 1e74 1e76 1e78 1e7a 1e7c 1e7e 1e80 1e82 1e84 1e86 1e88 1e8a 1e8c",
  "1e8e 1e90 1e92 1e94 1e9e 1ea0 1ea2 1ea4 1ea6 1ea8 1eaa 1eac 1eae 1eb0 1eb2 1eb4 1eb6 1eb8",
  "1eba 1ebc 1ebe 1ec0 1ec2 1ec4 1ec6 1ec8 1eca 1ecc 1ece 1ed0 1ed2 1ed4 1ed6 1ed8 1eda 1edc",
  "1ede 1ee0 1ee2 1ee4 1ee6 1ee8 1eea 1eec 1eee 1ef0 1ef2 1ef4 1ef6 1ef8 1efa 1efc 1efe 1f08+7",
  "1f18+5 1f28+7 1f38+7 1f48+5 1f59 1f5b 1f5d 1f5f 1f68+7 1f88+7 1f98+7 1fa8+7 1fb8+4 1fc8+4",
  "1fd8+3 1fe8+4 1ff8+4 2126 212a+1 2132 2160+f 2183 24b6+19 2c00+2f 2c60 2c62+2 2c67 2c69 2c6b",
  "2c6d+3 2c72 2c75 2c7e+2 2c82 2c84 2c86 2c88 2c8a 2c8c 2c8e 2c90 2c92 2c94 2c96 2c98 2c9a",
  "2c9c 2c9e 2ca0 2ca2 2ca4 2ca6 2ca8 2caa 2cac 2cae 2cb0 2cb2 2cb4 2cb6 2cb8 2cba 2cbc 2cbe",
  "2cc0 2cc2 2cc4 2cc6 2cc8 2cca 2ccc 2cce 2cd0 2cd2 2cd4 2cd6 2cd8 2cda 2cdc 2cde 2ce0 2ce2",
  "2ceb 2ced 2cf2 a640 a642 a644 a646 a648 a64a a64c a64e a650 a652 a654 a656 a658 a65a a65c",
  "a65e a660 a662 a664 a666 a668 a66a a66c a680 a682 a684 a686 a688 a68a a68c a68e a690 a692",
  "a694 a696 a698 a69a a722 a724 a726 a728 a72a a72c a72e a732 a734 a736 a738 a73a a73c a73e",
  "a740 a742 a744 a746 a748 a74a a74c a74e a750 a752 a754 a756 a758 a75a a75c a75e a760 a762",
  "a764 a766 a768 a76a a76c a76e a779 a77b a77d+1 a780 a782 a784 a786 a78b a78d a790 a792 a796",
  "a798 a79a a79c a79e a7a0 a7a2 a7a4 a7a6 a7a8 a7aa+4 a7b0+4 a7b6 a7b8 a7ba a7bc a7be a7c0",
  "a7c2 a7c4+3 a7c9 a7cb+1 a7ce a7d0 a7d2 a7d4 a7d6 a7d8 a7da a7dc a7f5 ff21+19 10400+27",
  "104b0+23 10570+a 1057c+e 1058c+6 10594+1 10c80+32 10d50+15 118a0+1f 16e40+1f 16ea0+18",
  "1e900+21"]

def changesWhenTitlecased : CharSet := .ofTable [
  "61+19 b5 df+17 f8+7 101 103 105 107 109 10b 10d 10f 111 113 115 117 119 11b 11d 11f 121 123",
  "125 127 129 12b 12d 12f 131 133 135 137 13a 13c 13e 140 142 144 146 148+1 14b 14d 14f 151",
  "153 155 157 159 15b 15d 15f 161 163 165 167 169 16b 16d 16f 171 173 175 177 17a 17c 17e+2",
  "183 185 188 18c 192 195 199+2 19e 1a1 1a3 1a5 1a8 1ad 1b0 1b4 1b6 1b9 1bd 1bf 1c4 1c6+1",
  "1c9+1 1cc 1ce 1d0 1d2 1d4 1d6 1d8 1da 1dc+1 1df 1e1 1e3 1e5 1e7 1e9 1eb 1ed 1ef+2 1f3 1f5",
  "1f9 1fb 1fd 1ff 201 203 205 207 209 20b 20d 20f 211 213 215 217 219 21b 21d 21f 223 225 227",
  "229 22b 22d 22f 231 233 23c 23f+1 242 247 249 24b 24d 24f+5 256+1 259 25b+1 260+1 263+3",
  "268+4 26f 271+1 275 27d 280 282+1 287+5 292 29d+1 345 371 373 377 37b+2 390 3ac+22 3d0+1",
  "3d5+2 3d9 3db 3dd 3df 3e1 3e3 3e5 3e7 3e9 3eb 3ed 3ef+4 3f5 3f8 3fb 430+2f 461 463 465 467",
  "469 46b 46d 46f 471 473 475 477 479 47b 47d 47f 481 48b 48d 48f 491 493 495 497 499 49b 49d",
  "49f 4a1 4a3 4a5 4a7 4a9 4ab 4ad 4af 4b1 4b3 4b5 4b7 4b9 4bb 4bd 4bf 4c2 4c4 4c6 4c8 4ca 4cc",
  "4ce+1 4d1 4d3 4d5 4d7 4d9 4db 4dd 4df 4e1 4e3 4e5 4e7 4e9 4eb 4ed 4ef 4f1 4f3 4f5 4f7 4f9",
  "4fb 4fd 4ff 501 503 505 507 509 50b 50d 50f 511 513 515 517 519 51b 51d 51f 521 523 525 527",
  "529 52b 52d 52f 561+26 13f8+5 1c80+8 1c8a 1d79 1d7d 1d8e 1e01 1e03 1e05 1e07 1e09 1e0b 1e0d",
  "1e0f 1e11 1e13 1e15 1e17 1e19 1e1b 1e1d 1e1f 1e21 1e23 1e25 1e27 1e29 1e2b 1e2d 1e2f 1e31",
  "1e33 1e35 1e37 1e39 1e3b 1e3d 1e3f 1e41 1e43 1e45 1e47 1e49 1e4b 1e4d 1e4f 1e51 1e53 1e55",
  "1e57 1e59 1e5b 1e5d 1e5f 1e61 1e63 1e65 1e67 1e69 1e6b 1e6d 1e6f 1e71 1e73 1e75 1e77 1e79",
  "1e7b 1e7d 1e7f 1e81 1e83 1e85 1e87 1e89 1e8b 1e8d 1e8f 1e91 1e93 1e95+6 1ea1 1ea3 1ea5 1ea7",
  "1ea9 1eab 1ead 1eaf 1eb1 1eb3 1eb5 1eb7 1eb9 1ebb 1ebd 1ebf 1ec1 1ec3 1ec5 1ec7 1ec9 1ecb",
  "1ecd 1ecf 1ed1 1ed3 1ed5 1ed7 1ed9 1edb 1edd 1edf 1ee1 1ee3 1ee5 1ee7 1ee9 1eeb 1eed 1eef",
  "1ef1 1ef3 1ef5 1ef7 1ef9 1efb 1efd 1eff+8 1f10+5 1f20+7 1f30+7 1f40+5 1f50+7 1f60+7 1f70+d",
  "1f80+7 1f90+7 1fa0+7 1fb0+4 1fb6+1 1fbe 1fc2+2 1fc6+1 1fd0+3 1fd6+1 1fe0+7 1ff2+2 1ff6+1",
  "214e 2170+f 2184 24d0+19 2c30+2f 2c61 2c65+1 2c68 2c6a 2c6c 2c73 2c76 2c81 2c83 2c85 2c87",
  "2c89 2c8b 2c8d 2c8f 2c91 2c93 2c95 2c97 2c99 2c9b 2c9d 2c9f 2ca1 2ca3 2ca5 2ca7 2ca9 2cab",
  "2cad 2caf 2cb1 2cb3 2cb5 2cb7 2cb9 2cbb 2cbd 2cbf 2cc1 2cc3 2cc5 2cc7 2cc9 2ccb 2ccd 2ccf",
  "2cd1 2cd3 2cd5 2cd7 2cd9 2cdb 2cdd 2cdf 2ce1 2ce3 2cec 2cee 2cf3 2d00+25 2d27 2d2d a641 a643",
  "a645 a647 a649 a64b a64d a64f a651 a653 a655 a657 a659 a65b a65d a65f a661 a663 a665 a667",
  "a669 a66b a66d a681 a683 a685 a687 a689 a68b a68d a68f a691 a693 a695 a697 a699 a69b a723",
  "a725 a727 a729 a72b a72d a72f a733 a735 a737 a739 a73b a73d a73f a741 a743 a745 a747 a749",
  "a74b a74d a74f a751 a753 a755 a757 a759 a75b a75d a75f a761 a763 a765 a767 a769 a76b a76d",
  "a76f a77a a77c a77f a781 a783 a785 a787 a78c a791 a793+1 a797 a799 a79b a79d a79f a7a1 a7a3",
  "a7a5 a7a7 a7a9 a7b5 a7b7 a7b9 a7bb a7bd a7bf a7c1 a7c3 a7c8 a7ca a7cd a7cf a7d1 a7d3 a7d5",
  "a7d7 a7d9 a7db a7f6 ab53 ab70+4f fb00+6 fb13+4 ff41+19 10428+27 104d8+23 10597+a 105a3+e",
  "105b3+6 105bb+1 10cc0+32 10d70+15 118c0+1f 16e60+1f 16ebb+18 1e922+21"]

def changesWhenUppercased : CharSet := .ofTable [
  "61+19 b5 df+17 f8+7 101 103 105 107 109 10b 10d 10f 111 113 115 117 119 11b 11d 11f 121 123",
  "125 127 129 12b 12d 12f 131 133 135 137 13a 13c 13e 140 142 144 146 148+1 14b 14d 14f 151",
  "153 155 157 159 15b 15d 15f 161 163 165 167 169 16b 16d 16f 171 173 175 177 17a 17c 17e+2",
  "183 185 188 18c 192 195 199+2 19e 1a1 1a3 1a5 1a8 1ad 1b0 1b4 1b6 1b9 1bd 1bf 1c5+1 1c8+1",
  "1cb+1 1ce 1d0 1d2 1d4 1d6 1d8 1da 1dc+1 1df 1e1 1e3 1e5 1e7 1e9 1eb 1ed 1ef+1 1f2+1 1f5 1f9",
  "1fb 1fd 1ff 201 203 205 207 209 20b 20d 20f 211 213 215 217 219 21b 21d 21f 223 225 227 229",
  "22b 22d 22f 231 233 23c 23f+1 242 247 249 24b 24d 24f+5 256+1 259 25b+1 260+1 263+3 268+4",
  "26f 271+1 275 27d 280 282+1 287+5 292 29d+1 345 371 373 377 37b+2 390 3ac+22 3d0+1 3d5+2 3d9",
  "3db 3dd 3df 3e1 3e3 3e5 3e7 3e9 3eb 3ed 3ef+4 3f5 3f8 3fb 430+2f 461 463 465 467 469 46b 46d",
  "46f 471 473 475 477 479 47b 47d 47f 481 48b 48d 48f 491 493 495 497 499 49b 49d 49f 4a1 4a3",
  "4a5 4a7 4a9 4ab 4ad 4af 4b1 4b3 4b5 4b7 4b9 4bb 4bd 4bf 4c2 4c4 4c6 4c8 4ca 4cc 4ce+1 4d1",
  "4d3 4d5 4d7 4d9 4db 4dd 4df 4e1 4e3 4e5 4e7 4e9 4eb 4ed 4ef 4f1 4f3 4f5 4f7 4f9 4fb 4fd 4ff",
  "501 503 505 507 509 50b 50d 50f 511 513 515 517 519 51b 51d 51f 521 523 525 527 529 52b 52d",
  "52f 561+26 10d0+2a 10fd+2 13f8+5 1c80+8 1c8a 1d79 1d7d 1d8e 1e01 1e03 1e05 1e07 1e09 1e0b",
  "1e0d 1e0f 1e11 1e13 1e15 1e17 1e19 1e1b 1e1d 1e1f 1e21 1e23 1e25 1e27 1e29 1e2b 1e2d 1e2f",
  "1e31 1e33 1e35 1e37 1e39 1e3b 1e3d 1e3f 1e41 1e43 1e45 1e47 1e49 1e4b 1e4d 1e4f 1e51 1e53",
  "1e55 1e57 1e59 1e5b 1e5d 1e5f 1e61 1e63 1e65 1e67 1e69 1e6b 1e6d 1e6f 1e71 1e73 1e75 1e77",
  "1e79 1e7b 1e7d 1e7f 1e81 1e83 1e85 1e87 1e89 1e8b 1e8d 1e8f 1e91 1e93 1e95+6 1ea1 1ea3 1ea5",
  "1ea7 1ea9 1eab 1ead 1eaf 1eb1 1eb3 1eb5 1eb7 1eb9 1ebb 1ebd 1ebf 1ec1 1ec3 1ec5 1ec7 1ec9",
  "1ecb 1ecd 1ecf 1ed1 1ed3 1ed5 1ed7 1ed9 1edb 1edd 1edf 1ee1 1ee3 1ee5 1ee7 1ee9 1eeb 1eed",
  "1eef 1ef1 1ef3 1ef5 1ef7 1ef9 1efb 1efd 1eff+8 1f10+5 1f20+7 1f30+7 1f40+5 1f50+7 1f60+7",
  "1f70+d 1f80+34 1fb6+1 1fbc 1fbe 1fc2+2 1fc6+1 1fcc 1fd0+3 1fd6+1 1fe0+7 1ff2+2 1ff6+1 1ffc",
  "214e 2170+f 2184 24d0+19 2c30+2f 2c61 2c65+1 2c68 2c6a 2c6c 2c73 2c76 2c81 2c83 2c85 2c87",
  "2c89 2c8b 2c8d 2c8f 2c91 2c93 2c95 2c97 2c99 2c9b 2c9d 2c9f 2ca1 2ca3 2ca5 2ca7 2ca9 2cab",
  "2cad 2caf 2cb1 2cb3 2cb5 2cb7 2cb9 2cbb 2cbd 2cbf 2cc1 2cc3 2cc5 2cc7 2cc9 2ccb 2ccd 2ccf",
  "2cd1 2cd3 2cd5 2cd7 2cd9 2cdb 2cdd 2cdf 2ce1 2ce3 2cec 2cee 2cf3 2d00+25 2d27 2d2d a641 a643",
  "a645 a647 a649 a64b a64d a64f a651 a653 a655 a657 a659 a65b a65d a65f a661 a663 a665 a667",
  "a669 a66b a66d a681 a683 a685 a687 a689 a68b a68d a68f a691 a693 a695 a697 a699 a69b a723",
  "a725 a727 a729 a72b a72d a72f a733 a735 a737 a739 a73b a73d a73f a741 a743 a745 a747 a749",
  "a74b a74d a74f a751 a753 a755 a757 a759 a75b a75d a75f a761 a763 a765 a767 a769 a76b a76d",
  "a76f a77a a77c a77f a781 a783 a785 a787 a78c a791 a793+1 a797 a799 a79b a79d a79f a7a1 a7a3",
  "a7a5 a7a7 a7a9 a7b5 a7b7 a7b9 a7bb a7bd a7bf a7c1 a7c3 a7c8 a7ca a7cd a7cf a7d1 a7d3 a7d5",
  "a7d7 a7d9 a7db a7f6 ab53 ab70+4f fb00+6 fb13+4 ff41+19 10428+27 104d8+23 10597+a 105a3+e",
  "105b3+6 105bb+1 10cc0+32 10d70+15 118c0+1f 16e60+1f 16ebb+18 1e922+21"]

def dash : CharSet := .ofTable [
  "2d 58a 5be 1400 1806 2010+5 2053 207b 208b 2212 2e17 2e1a 2e3a+1 2e40 2e5d 301c 3030 30a0",
  "fe31+1 fe58 fe63 ff0d 10d6e 10ead"]

def defaultIgnorableCodePoint : CharSet := .ofTable [
  "ad 34f 61c 115f+1 17b4+1 180b+4 200b+4 202a+4 2060+f 3164 fe00+f feff ffa0 fff0+8 1bca0+3",
  "1d173+7 e0000+fff"]

def deprecated : CharSet := .ofTable ["149 673 f77 f79 17a3+1 206a+5 2329+1 e0001"]

def diacritic : CharSet := .ofTable [
  "5e 60 a8 af b4 b7+1 2b0+9e 350+7 35d+5 374+1 37a 384+1 483+4 559 591+2c 5bf 5c1+1 5c4+1 5c7",
  "64b+7 657+1 6df+1 6e5+1 6ea+2 730+1a 7a6+a 7eb+a 818+1 898+7 8c9+9 8e3+1b 93c 94d 951+3 971",
  "9bc 9cd a3c a4d abc acd afd+2 b3c b4d b55 bcd c3c c4d cbc ccd d3b+1 d4d dca e3a e47+5 e4e",
  "eba ec8+4 f18+1 f35 f37 f39 f3e+1 f82+2 f86+1 fc6 1037 1039+1 1063+1 1069+4 1087+6 108f",
  "109a+1 135d+2 1714+1 1734 17c9+a 17dd 1939+2 1a60 1a75+7 1a7f 1ab0+e 1ac1+a 1acf+e 1ae0+b",
  "1b34 1b44 1b6b+8 1baa+1 1be6 1bf2+1 1c36+1 1c78+5 1cd0+18 1ced 1cf4 1cf7+2 1d2c+3e 1d9b+23",
  "1dc4+b 1df5+a 1fbd 1fbf+2 1fcd+2 1fdd+2 1fed+2 1ffd+1 2cef+2 2e2f 302a+5 3099+3 30fc a66f",
  "a67c+1 a67f a69c+1 a6f0+1 a700+21 a788+2 a7f1 a7f8+1 a806 a82c a8c4 a8e0+11 a92b+3 a953 a9b3",
  "a9c0 a9e5 aa7b+2 aabf+3 aaf6 ab5b+4 ab69+2 abec+1 fb1e fe20+f ff3e ff40 ff70 ff9e+1 ffe3",
  "102e0 10780+5 10787+29 107b2+8 10a38+2 10a3f 10ae5+1 10d22+5 10d4e 10d69+4 10efa 10efd+2",
  "10f46+a 10f82+3 11046 11070 110b9+1 11133+1 11173 111c0 111ca+2 11235+1 112e9+1 1133b+1",
  "1134d 11366+6 11370+4 113ce+2 113d2+1 113e1+1 11442 11446 114c2+1 115bf+1 1163f 116b6+1",
  "1172b 11839+1 1193d+1 11943 119e0 11a34 11a47 11a99 11c3f 11d42 11d44+1 11d97 11dd9 11f41+1",
  "11f5a 13447+e 1612f 16af0+4 16b30+6 16d6b+1 16f8f+10 16ff0+1 1aff0+3 1aff5+6 1affd+1",
  "1cf00+2d 1cf30+16 1d167+2 1d16d+5 1d17b+7 1d185+6 1d1aa+3 1e030+3d 1e130+6 1e2ae 1e2ec+3",
  "1e5ee+1 1e8d0+6 1e944+2 1e948+2"]

def emoji : CharSet := .ofTable [
  "23 2a 30+9 a9 ae 203c 2049 2122 2139 2194+5 21a9+1 231a+1 2328 23cf 23e9+a 23f8+2 24c2",
  "25aa+1 25b6 25c0 25fb+3 2600+4 260e 2611 2614+1 2618 261d 2620 2622+1 2626 262a 262e+1",
  "2638+2 2640 2642 2648+b 265f+1 2663 2665+1 2668 267b 267e+1 2692+5 2699 269b+1 26a0+1 26a7",
  "26aa+1 26b0+1 26bd+1 26c4+1 26c8 26ce+1 26d1 26d3+1 26e9+1 26f0+5 26f7+3 26fd 2702 2705",
  "2708+5 270f 2712 2714 2716 271d 2721 2728 2733+1 2744 2747 274c 274e 2753+2 2757 2763+1",
  "2795+2 27a1 27b0 27bf 2934+1 2b05+2 2b1b+1 2b50 2b55 3030 303d 3297 3299 1f004 1f0cf 1f170+1",
  "1f17e+1 1f18e 1f191+9 1f1e6+19 1f201+1 1f21a 1f22f 1f232+8 1f250+1 1f300+21 1f324+6f 1f396+1",
  "1f399+2 1f39e+52 1f3f3+2 1f3f7+106 1f4ff+3e 1f549+5 1f550+17 1f56f+1 1f573+7 1f587 1f58a+3",
  "1f590 1f595+1 1f5a4+1 1f5a8 1f5b1+1 1f5bc 1f5c2+2 1f5d1+2 1f5dc+2 1f5e1 1f5e3 1f5e8 1f5ef",
  "1f5f3 1f5fa+55 1f680+45 1f6cb+7 1f6d5+3 1f6dc+9 1f6e9 1f6eb+1 1f6f0 1f6f3+9 1f7e0+b 1f7f0",
  "1f90c+2e 1f93c+9 1f947+b8 1fa70+c 1fa80+a 1fa8e+38 1fac8 1facd+f 1fadf+b 1faef+9"]

def emojiComponent : CharSet := .ofTable [
  "23 2a 30+9 200d 20e3 fe0f 1f1e6+19 1f3fb+4 1f9b0+3 e0020+5f"]

def emojiModifier : CharSet := .ofTable ["1f3fb+4"]

def emojiModifierBase : CharSet := .ofTable [
  "261d 26f9 270a+3 1f385 1f3c2+2 1f3c7 1f3ca+2 1f442+1 1f446+a 1f466+12 1f47c 1f481+2 1f485+2",
  "1f48f 1f491 1f4aa 1f574+1 1f57a 1f590 1f595+1 1f645+2 1f64b+4 1f6a3 1f6b4+2 1f6c0 1f6cc",
  "1f90c 1f90f 1f918+7 1f926 1f930+9 1f93c+2 1f977 1f9b5+1 1f9b8+1 1f9bb 1f9cd+2 1f9d1+c",
  "1fac3+2 1faf0+8"]

def emojiPresentation : CharSet := .ofTable [
  "231a+1 23e9+3 23f0 23f3 25fd+1 2614+1 2648+b 267f 2693 26a1 26aa+1 26bd+1 26c4+1 26ce 26d4",
  "26ea 26f2+1 26f5 26fa 26fd 2705 270a+1 2728 274c 274e 2753+2 2757 2795+2 27b0 27bf 2b1b+1",
  "2b50 2b55 1f004 1f0cf 1f18e 1f191+9 1f1e6+19 1f201 1f21a 1f22f 1f232+4 1f238+2 1f250+1",
  "1f300+20 1f32d+8 1f337+45 1f37e+15 1f3a0+2a 1f3cf+4 1f3e0+10 1f3f4 1f3f8+46 1f440 1f442+ba",
  "1f4ff+3e 1f54b+3 1f550+17 1f57a 1f595+1 1f5a4 1f5fb+54 1f680+45 1f6cc 1f6d0+2 1f6d5+3",
  "1f6dc+3 1f6eb+1 1f6f4+8 1f7e0+b 1f7f0 1f90c+2e 1f93c+9 1f947+b8 1fa70+c 1fa80+a 1fa8e+38",
  "1fac8 1facd+f 1fadf+b 1faef+9"]

def extendedPictographic : CharSet := .ofTable [
  "a9 ae 203c 2049 2122 2139 2194+5 21a9+1 231a+1 2328 23cf 23e9+a 23f8+2 24c2 25aa+1 25b6 25c0",
  "25fb+3 2600+4 260e 2611 2614+1 2618 261d 2620 2622+1 2626 262a 262e+1 2638+2 2640 2642",
  "2648+b 265f+1 2663 2665+1 2668 267b 267e+1 2692+5 2699 269b+1 26a0+1 26a7 26aa+1 26b0+1",
  "26bd+1 26c4+1 26c8 26ce+1 26d1 26d3+1 26e9+1 26f0+5 26f7+3 26fd 2702 2705 2708+5 270f 2712",
  "2714 2716 271d 2721 2728 2733+1 2744 2747 274c 274e 2753+2 2757 2763+1 2795+2 27a1 27b0 27bf",
  "2934+1 2b05+2 2b1b+1 2b50 2b55 3030 303d 3297 3299 1f004 1f02c+3 1f094+b 1f0af+1 1f0c0",
  "1f0cf+1 1f0f6+9 1f170+1 1f17e+1 1f18e 1f191+9 1f1ae+37 1f201+e 1f21a 1f22f 1f232+8 1f23c+3",
  "1f249+16 1f266+bb 1f324+6f 1f396+1 1f399+2 1f39e+52 1f3f3+2 1f3f7+3 1f400+fd 1f4ff+3e",
  "1f549+5 1f550+17 1f56f+1 1f573+7 1f587 1f58a+3 1f590 1f595+1 1f5a4+1 1f5a8 1f5b1+1 1f5bc",
  "1f5c2+2 1f5d1+2 1f5dc+2 1f5e1 1f5e3 1f5e8 1f5ef 1f5f3 1f5fa+55 1f680+45 1f6cb+7 1f6d5+10",
  "1f6e9 1f6eb+5 1f6f3+c 1f7da+25 1f80c+3 1f848+7 1f85a+5 1f888+7 1f8ae+1 1f8bc+3 1f8c2+d",
  "1f8d9+26 1f90c+2e 1f93c+9 1f947+b8 1fa58+7 1fa6e+91 1fc00+3fd"]

def extender : CharSet := .ofTable [
  "b7 2d0+1 640 7fa a71 afb b55 e46 ec6 180a 1843 1aa7 1c36 1c7b 3005 3031+4 309d+1 30fc+2 a015",
  "a60c a9cf a9e6 aa70 aadd aaf3+1 ff70 10781+1 10d4e 10d6a 10d6f 11237 1135d 113d2+1 115c6+2",
  "11a98 11dd9 16b42+1 16fe0+1 16fe3 16ff2+1 1e13c+1 1e5ef 1e944+2"]

def graphemeBase : CharSet := .ofTable [
  "20+5e a0+c ae+251 370+7 37a+5 384+6 38c 38e+13 3a3+df 48a+a5 531+25 559+31 58d+2 5be 5c0 5c3",
  "5c6 5d0+1a 5ef+5 606+9 61b 61d+2d 660+f 671+64 6de 6e5+1 6e9 6ee+1f 710 712+1d 74d+58 7b1",
  "7c0+2a 7f4+6 7fe+17 81a 824 828 830+e 840+18 85e 860+a 870+1f 8a0+29 903+36 93b 93d+3 949+3",
  "94e+2 958+9 964+1c 982+1 985+7 98f+1 993+15 9aa+6 9b2 9b6+3 9bd 9bf+1 9c7+1 9cb+1 9ce 9dc+1",
  "9df+2 9e6+17 a03 a05+5 a0f+1 a13+15 a2a+6 a32+1 a35+1 a38+1 a3e+2 a59+3 a5e a66+9 a72+2 a76",
  "a83 a85+8 a8f+2 a93+15 aaa+6 ab2+1 ab5+4 abd+3 ac9 acb+1 ad0 ae0+1 ae6+b af9 b02+1 b05+7",
  "b0f+1 b13+15 b2a+6 b32+1 b35+4 b3d b40 b47+1 b4b+1 b5c+1 b5f+2 b66+11 b83 b85+5 b8e+2 b92+3",
  "b99+1 b9c b9e+1 ba3+1 ba8+2 bae+b bbf bc1+1 bc6+2 bca+2 bd0 be6+14 c01+2 c05+7 c0e+2 c12+16",
  "c2a+f c3d c41+3 c58+2 c5c+1 c60+1 c66+9 c77+9 c82+a c8e+2 c92+16 caa+9 cb5+4 cbd+1 cc1 cc3+1",
  "cdc+2 ce0+1 ce6+9 cf1+2 d02+a d0e+2 d12+28 d3d d3f+1 d46+2 d4a+2 d4e+1 d54+2 d58+9 d66+19",
  "d82+1 d85+11 d9a+17 db3+8 dbd dc0+6 dd0+1 dd8+6 de6+9 df2+2 e01+2f e32+1 e3f+7 e4f+c e81+1",
  "e84 e86+4 e8c+17 ea5 ea7+9 eb2+1 ebd ec0+4 ec6 ed0+9 edc+3 f00+17 f1a+1a f36 f38 f3a+d",
  "f49+23 f7f f85 f88+4 fbe+7 fc7+5 fce+c 1000+2c 1031 1038 103b+1 103f+18 105a+3 1061+f 1075+c",
  "1083+1 1087+5 108e+e 109e+27 10c7 10cd 10d0+178 124a+3 1250+6 1258 125a+3 1260+28 128a+3",
  "1290+20 12b2+3 12b8+6 12c0 12c2+3 12c8+e 12d8+38 1312+3 1318+42 1360+1c 1380+19 13a0+55",
  "13f8+5 1400+29c 16a0+58 1700+11 171f+12 1735+1 1740+11 1760+c 176e+2 1780+33 17b6 17be+7",
  "17c7+1 17d4+8 17e0+9 17f0+9 1800+a 1810+9 1820+58 1880+4 1887+21 18aa 18b0+45 1900+1e 1923+3",
  "1929+2 1930+1 1933+5 1940 1944+29 1970+4 1980+2b 19b0+19 19d0+a 19de+38 1a19+1 1a1e+37 1a57",
  "1a61 1a63+1 1a6d+5 1a80+9 1a90+9 1aa0+d 1b04+2f 1b3e+3 1b45+7 1b4e+1c 1b74+b 1b82+1f 1ba6+1",
  "1bae+37 1be7 1bea+2 1bee 1bfc+2f 1c34+1 1c3b+e 1c4d+3d 1c90+2a 1cbd+a 1cd3 1ce1 1ce9+3",
  "1cee+5 1cf5+2 1cfa 1d00+bf 1e00+115 1f18+5 1f20+25 1f48+5 1f50+7 1f59 1f5b 1f5d 1f5f+1e",
  "1f80+34 1fb6+e 1fc6+d 1fd6+5 1fdd+12 1ff2+2 1ff6+8 2000+a 2010+17 202f+30 2070+1 2074+1a",
  "2090+c 20a0+21 2100+8b 2190+299 2440+a 2460+713 2b76+178 2cf2+1 2cf9+2c 2d27 2d2d 2d30+37",
  "2d6f+1 2d80+16 2da0+6 2da8+6 2db0+6 2db8+6 2dc0+6 2dc8+6 2dd0+6 2dd8+6 2e00+5d 2e80+19",
  "2e9b+58 2f00+d5 2ff0+39 3030+f 3041+55 309b+64 3105+2a 3131+5d 3190+55 31ef+2f 3220+726c",
  "a490+36 a4d0+15b a640+2e a673 a67e+1f a6a0+4f a6f2+5 a700+dc a7f1+10 a803+2 a807+3 a80c+18",
  "a827+4 a830+9 a840+37 a880+43 a8ce+b a8f2+c a900+25 a92e+18 a952 a95f+1d a983+2f a9b4+1",
  "a9ba+1 a9be+1 a9c1+c a9cf+a a9de+6 a9e6+18 aa00+28 aa2f+1 aa33+1 aa40+2 aa44+7 aa4d aa50+9",
  "aa5c+1f aa7d+32 aab1 aab5+1 aab9+4 aac0 aac2 aadb+10 aaee+7 ab01+5 ab09+5 ab11+5 ab20+6",
  "ab28+6 ab30+3b ab70+74 abe6+1 abe9+3 abf0+9 ac00+2ba3 d7b0+16 d7cb+30 f900+16d fa70+69",
  "fb00+6 fb13+4 fb1d fb1f+17 fb38+4 fb3e fb40+1 fb43+1 fb46+289 fdf0+f fe10+9 fe30+22 fe54+12",
  "fe68+3 fe70+4 fe76+86 ff01+9c ffa0+1e ffc2+5 ffca+5 ffd2+5 ffda+2 ffe0+6 ffe8+6 fffc+1",
  "10000+b 1000d+19 10028+12 1003c+1 1003f+e 10050+d 10080+7a 10100+2 10107+2c 10137+57 10190+c",
  "101a0 101d0+2c 10280+1c 102a0+30 102e1+1a 10300+23 1032d+1d 10350+25 10380+1d 1039f+24",
  "103c8+d 10400+9d 104a0+9 104b0+23 104d8+23 10500+27 10530+33 1056f+b 1057c+e 1058c+6 10594+1",
  "10597+a 105a3+e 105b3+6 105bb+1 105c0+33 10600+136 10740+15 10760+7 10780+5 10787+29 107b2+8",
  "10800+5 10808 1080a+2b 10837+1 1083c 1083f+16 10857+47 108a7+8 108e0+12 108f4+1 108fb+20",
  "1091f+1a 1093f+1a 10980+37 109bc+13 109d2+2e 10a10+3 10a15+2 10a19+1c 10a40+8 10a50+8",
  "10a60+3f 10ac0+24 10aeb+b 10b00+35 10b39+1c 10b58+1a 10b78+19 10b99+3 10ba9+6 10c00+48",
  "10c80+32 10cc0+32 10cfa+29 10d30+9 10d40+25 10d6e+17 10d8e+1 10e60+1e 10e80+29 10ead 10eb0+1",
  "10ec2+5 10ed0+8 10f00+27 10f30+15 10f51+8 10f70+11 10f86+3 10fb0+1b 10fe0+16 11000 11002+35",
  "11047+6 11052+1d 11071+1 11075 11082+30 110b7+1 110bb+1 110be+3 110d0+18 110f0+9 11103+23",
  "1112c 11136+11 11150+22 11174+2 11182+33 111bf 111c1+7 111cd+1 111d0+f 111e1+13 11200+11",
  "11213+1b 11232+1 11238+5 1123f+1 11280+6 11288 1128a+3 1128f+e 1129f+a 112b0+2e 112e0+2",
  "112f0+9 11302+1 11305+7 1130f+1 11313+15 1132a+6 11332+1 11335+4 1133d 1133f 11341+3 11347+1",
  "1134b+1 11350 1135d+6 11380+9 1138b 1138e 11390+25 113b7 113b9+1 113ca 113cc+1 113d1 113d3+2",
  "113d7+1 11400+37 11440+1 11445 11447+14 1145d 1145f+2 11480+2f 114b1+1 114b9 114bb+1 114be",
  "114c1 114c4+3 114d0+9 11580+2e 115b0+1 115b8+3 115be 115c1+1a 11600+32 1163b+1 1163e 11641+3",
  "11650+9 11660+c 11680+2a 116ac 116ae+1 116b8+1 116c0+9 116d0+13 11700+1a 1171e 11720+1 11726",
  "11730+16 11800+2e 11838 1183b 118a0+52 118ff+7 11909 1190c+7 11915+1 11918+17 11931+4",
  "11937+1 1193f+3 11944+2 11950+9 119a0+7 119aa+29 119dc+3 119e1+3 11a00 11a0b+27 11a39+1",
  "11a3f+7 11a50 11a57+1 11a5c+2d 11a97 11a9a+8 11ab0+48 11b00+9 11b61 11b65 11b67 11bc0+21",
  "11bf0+9 11c00+8 11c0a+25 11c3e 11c40+5 11c50+1c 11c70+1f 11ca9 11cb1 11cb4 11d00+6 11d08+1",
  "11d0b+25 11d46 11d50+9 11d60+5 11d67+1 11d6a+24 11d93+1 11d96 11d98 11da0+9 11db0+2b 11de0+9",
  "11ee0+12 11ef5+3 11f02+e 11f12+23 11f3e+1 11f43+16 11fb0 11fc0+31 11fff+39a 12400+6e 12470+4",
  "12480+c3 12f90+62 13000+42f 13441+5 13460+f9a 14400+246 16100+1d 1612a+2 16130+9 16800+238",
  "16a40+1e 16a60+9 16a6e+50 16ac0+9 16ad0+1d 16af5 16b00+2f 16b37+e 16b50+9 16b5b+6 16b63+14",
  "16b7d+12 16d40+39 16e40+5a 16ea0+18 16ebb+18 16f00+4a 16f50+37 16f93+c 16fe0+3 16ff2+4",
  "17000+1cd5 18cff+1f 18d80+72 1aff0+3 1aff5+6 1affd+1 1b000+122 1b132 1b150+2 1b155 1b164+3",
  "1b170+18b 1bc00+6a 1bc70+c 1bc80+8 1bc90+9 1bc9c 1bc9f 1cc00+fc 1cd00+1b3 1ceba+16 1cee0+10",
  "1cf50+73 1d000+f5 1d100+26 1d129+3b 1d16a+2 1d183+1 1d18c+1d 1d1ae+3c 1d200+41 1d245",
  "1d2c0+13 1d2e0+13 1d300+56 1d360+18 1d400+54 1d456+46 1d49e+1 1d4a2 1d4a5+1 1d4a9+3 1d4ae+b",
  "1d4bb 1d4bd+6 1d4c5+40 1d507+3 1d50d+7 1d516+6 1d51e+1b 1d53b+3 1d540+4 1d546 1d54a+6",
  "1d552+153 1d6a8+123 1d7ce+231 1da37+3 1da6d+7 1da76+d 1da85+6 1df00+1e 1df25+5 1e030+3d",
  "1e100+2c 1e137+6 1e140+9 1e14e+1 1e290+1d 1e2c0+2b 1e2f0+9 1e2ff 1e4d0+1b 1e4f0+9 1e5d0+1d",
  "1e5f0+a 1e5ff 1e6c0+1e 1e6e0+2 1e6e4+1 1e6e7+6 1e6f0+4 1e6fe+1 1e7e0+6 1e7e8+3 1e7ed+1",
  "1e7f0+e 1e800+c4 1e8c7+8 1e900+43 1e94b 1e950+9 1e95e+1 1ec71+43 1ed01+3c 1ee00+3 1ee05+1a",
  "1ee21+1 1ee24 1ee27 1ee29+9 1ee34+3 1ee39 1ee3b 1ee42 1ee47 1ee49 1ee4b 1ee4d+2 1ee51+1",
  "1ee54 1ee57 1ee59 1ee5b 1ee5d 1ee5f 1ee61+1 1ee64 1ee67+3 1ee6c+6 1ee74+3 1ee79+3 1ee7e",
  "1ee80+9 1ee8b+10 1eea1+2 1eea5+4 1eeab+10 1eef0+1 1f000+2b 1f030+63 1f0a0+e 1f0b1+e 1f0c1+e",
  "1f0d1+24 1f100+ad 1f1e6+1c 1f210+2b 1f240+8 1f250+1 1f260+5 1f300+3d8 1f6dc+10 1f6f0+c",
  "1f700+d9 1f7e0+b 1f7f0 1f800+b 1f810+37 1f850+9 1f860+27 1f890+1d 1f8b0+b 1f8c0+1 1f8d0+8",
  "1f900+157 1fa60+d 1fa70+c 1fa80+a 1fa8e+38 1fac8 1facd+f 1fadf+b 1faef+9 1fb00+92 1fb94+66",
  "20000+a6df 2a700+111d 2b820+168d 2ceb0+1d30 2ebf0+26d 2f800+21d 30000+134a 31350+2129"]

def graphemeExtend : CharSet := .ofTable [
  "300+6f 483+6 591+2c 5bf 5c1+1 5c4+1 5c7 610+a 64b+14 670 6d6+6 6df+5 6e7+1 6ea+3 711 730+1a",
  "7a6+a 7eb+8 7fd 816+3 81b+8 825+2 829+4 859+2 897+8 8ca+17 8e3+1f 93a 93c 941+7 94d 951+6",
  "962+1 981 9bc 9be 9c1+3 9cd 9d7 9e2+1 9fe a01+1 a3c a41+1 a47+1 a4b+2 a51 a70+1 a75 a81+1",
  "abc ac1+4 ac7+1 acd ae2+1 afa+5 b01 b3c b3e+1 b41+3 b4d b55+2 b62+1 b82 bbe bc0 bcd bd7 c00",
  "c04 c3c c3e+2 c46+2 c4a+3 c55+1 c62+1 c81 cbc cbf+1 cc2 cc6+2 cca+3 cd5+1 ce2+1 d00+1 d3b+1",
  "d3e d41+3 d4d d57 d62+1 d81 dca dcf dd2+2 dd6 ddf e31 e34+6 e47+7 eb1 eb4+8 ec8+6 f18+1 f35",
  "f37 f39 f71+d f80+4 f86+1 f8d+a f99+23 fc6 102d+3 1032+5 1039+1 103d+1 1058+1 105e+2 1071+3",
  "1082 1085+1 108d 109d 135d+2 1712+3 1732+2 1752+1 1772+1 17b4+1 17b7+6 17c6 17c9+a 17dd",
  "180b+2 180f 1885+1 18a9 1920+2 1927+1 1932 1939+2 1a17+1 1a1b 1a56 1a58+6 1a60 1a62 1a65+7",
  "1a73+9 1a7f 1ab0+2d 1ae0+b 1b00+3 1b34+9 1b42+2 1b6b+8 1b80+1 1ba2+3 1ba8+5 1be6 1be8+1 1bed",
  "1bef+4 1c2c+7 1c36+1 1cd0+2 1cd4+c 1ce2+6 1ced 1cf4 1cf8+1 1dc0+3f 200c 20d0+20 2cef+2 2d7f",
  "2de0+1f 302a+5 3099+1 a66f+3 a674+9 a69e+1 a6f0+1 a802 a806 a80b a825+1 a82c a8c4+1 a8e0+11",
  "a8ff a926+7 a947+a a953 a980+2 a9b3 a9b6+3 a9bc+1 a9c0 a9e5 aa29+5 aa31+1 aa35+1 aa43 aa4c",
  "aa7c aab0 aab2+2 aab7+1 aabe+1 aac1 aaec+1 aaf6 abe5 abe8 abed fb1e fe00+f fe20+f ff9e+1",
  "101fd 102e0 10376+4 10a01+2 10a05+1 10a0c+3 10a38+2 10a3f 10ae5+1 10d24+3 10d69+4 10eab+1",
  "10efa+5 10f46+a 10f82+3 11001 11038+e 11070 11073+1 1107f+2 110b3+3 110b9+1 110c2 11100+2",
  "11127+4 1112d+7 11173 11180+1 111b6+8 111c0 111c9+3 111cf 1122f+2 11234+3 1123e 11241 112df",
  "112e3+7 11300+1 1133b+1 1133e 11340 1134d 11357 11366+6 11370+4 113b8 113bb+5 113c2 113c5",
  "113c7+2 113ce+2 113d2 113e1+1 11438+7 11442+2 11446 1145e 114b0 114b3+5 114ba 114bd 114bf+1",
  "114c2+1 115af 115b2+3 115bc+1 115bf+1 115dc+1 11633+7 1163d 1163f+1 116ab 116ad 116b0+7",
  "1171d 1171f 11722+3 11727+4 1182f+8 11839+1 11930 1193b+3 11943 119d4+3 119da+1 119e0",
  "11a01+9 11a33+5 11a3b+3 11a47 11a51+5 11a59+2 11a8a+c 11a98+1 11b60 11b62+2 11b66 11c30+6",
  "11c38+5 11c3f 11c92+15 11caa+6 11cb2+1 11cb5+1 11d31+5 11d3a 11d3c+1 11d3f+6 11d47 11d90+1",
  "11d95 11d97 11ef3+1 11f00+1 11f36+4 11f40+2 11f5a 13440 13447+e 1611e+b 1612d+2 16af0+4",
  "16b30+6 16f4f 16f8f+3 16fe4 16ff0+1 1bc9d+1 1cf00+2d 1cf30+16 1d165+4 1d16d+5 1d17b+7",
  "1d185+6 1d1aa+3 1d242+2 1da00+36 1da3b+31 1da75 1da84 1da9b+4 1daa1+e 1e000+6 1e008+10",
  "1e01b+6 1e023+1 1e026+4 1e08f 1e130+6 1e2ae 1e2ec+3 1e4ec+3 1e5ee+1 1e6e3 1e6e6 1e6ee+1",
  "1e6f5 1e8d0+6 1e944+6 e0020+5f e0100+ef"]

def hexDigit : CharSet := .ofTable ["30+9 41+5 61+5 ff10+9 ff21+5 ff41+5"]

def idsBinaryOperator : CharSet := .ofTable ["2ff0+1 2ff4+9 31ef"]

def idsTrinaryOperator : CharSet := .ofTable ["2ff2+1"]

def idContinue : CharSet := .ofTable [
  "30+9 41+19 5f 61+19 aa b5 b7 ba c0+16 d8+1e f8+1c9 2c6+b 2e0+4 2ec 2ee 300+74 376+1 37a+3",
  "37f 386+4 38c 38e+13 3a3+52 3f7+8a 483+4 48a+a5 531+25 559 560+28 591+2c 5bf 5c1+1 5c4+1 5c7",
  "5d0+1a 5ef+3 610+a 620+49 66e+65 6d5+7 6df+9 6ea+12 6ff 710+3a 74d+64 7c0+35 7fa 7fd 800+2d",
  "840+1b 860+a 870+17 889+6 897+4a 8e3+80 966+9 971+12 985+7 98f+1 993+15 9aa+6 9b2 9b6+3",
  "9bc+8 9c7+1 9cb+3 9d7 9dc+1 9df+4 9e6+b 9fc 9fe a01+2 a05+5 a0f+1 a13+15 a2a+6 a32+1 a35+1",
  "a38+1 a3c a3e+4 a47+1 a4b+2 a51 a59+3 a5e a66+f a81+2 a85+8 a8f+2 a93+15 aaa+6 ab2+1 ab5+4",
  "abc+9 ac7+2 acb+2 ad0 ae0+3 ae6+9 af9+6 b01+2 b05+7 b0f+1 b13+15 b2a+6 b32+1 b35+4 b3c+8",
  "b47+1 b4b+2 b55+2 b5c+1 b5f+4 b66+9 b71 b82+1 b85+5 b8e+2 b92+3 b99+1 b9c b9e+1 ba3+1 ba8+2",
  "bae+b bbe+4 bc6+2 bca+3 bd0 bd7 be6+9 c00+c c0e+2 c12+16 c2a+f c3c+8 c46+2 c4a+3 c55+1 c58+2",
  "c5c+1 c60+3 c66+9 c80+3 c85+7 c8e+2 c92+16 caa+9 cb5+4 cbc+8 cc6+2 cca+3 cd5+1 cdc+2 ce0+3",
  "ce6+9 cf1+2 d00+c d0e+2 d12+32 d46+2 d4a+4 d54+3 d5f+4 d66+9 d7a+5 d81+2 d85+11 d9a+17 db3+8",
  "dbd dc0+6 dca dcf+5 dd6 dd8+7 de6+9 df2+1 e01+39 e40+e e50+9 e81+1 e84 e86+4 e8c+17 ea5",
  "ea7+16 ec0+4 ec6 ec8+6 ed0+9 edc+3 f00 f18+1 f20+9 f35 f37 f39 f3e+9 f49+23 f71+13 f86+11",
  "f99+23 fc6 1000+49 1050+4d 10a0+25 10c7 10cd 10d0+2a 10fc+14c 124a+3 1250+6 1258 125a+3",
  "1260+28 128a+3 1290+20 12b2+3 12b8+6 12c0 12c2+3 12c8+e 12d8+38 1312+3 1318+42 135d+2 1369+8",
  "1380+f 13a0+55 13f8+5 1401+26b 166f+10 1681+19 16a0+4a 16ee+a 1700+15 171f+15 1740+13 1760+c",
  "176e+2 1772+1 1780+53 17d7 17dc+1 17e0+9 180b+2 180f+a 1820+58 1880+2a 18b0+45 1900+1e",
  "1920+b 1930+b 1946+27 1970+4 1980+2b 19b0+19 19d0+a 1a00+1b 1a20+3e 1a60+1c 1a7f+a 1a90+9",
  "1aa7 1ab0+d 1abf+1e 1ae0+b 1b00+4c 1b50+9 1b6b+8 1b80+73 1c00+37 1c40+9 1c4d+30 1c80+a",
  "1c90+2a 1cbd+2 1cd0+2 1cd4+26 1d00+215 1f18+5 1f20+25 1f48+5 1f50+7 1f59 1f5b 1f5d 1f5f+1e",
  "1f80+34 1fb6+6 1fbe 1fc2+2 1fc6+6 1fd0+3 1fd6+5 1fe0+c 1ff2+2 1ff6+6 200c+1 203f+1 2054 2071",
  "207f 2090+c 20d0+c 20e1 20e5+b 2102 2107 210a+9 2115 2118+5 2124 2126 2128 212a+f 213c+3",
  "2145+4 214e 2160+28 2c00+e4 2ceb+8 2d00+25 2d27 2d2d 2d30+37 2d6f 2d7f+17 2da0+6 2da8+6",
  "2db0+6 2db8+6 2dc0+6 2dc8+6 2dd0+6 2dd8+6 2de0+1f 3005+2 3021+e 3031+4 3038+4 3041+55 3099+6",
  "30a1+5e 3105+2a 3131+5d 31a0+1f 31f0+f 3400+19bf 4e00+568c a4d0+2d a500+10c a610+1b a640+2f",
  "a674+9 a67f+72 a717+8 a722+66 a78b+51 a7f1+36 a82c a840+33 a880+45 a8d0+9 a8e0+17 a8fb",
  "a8fd+30 a930+23 a960+1c a980+40 a9cf+a a9e0+1e aa00+36 aa40+d aa50+9 aa60+16 aa7a+48 aadb+2",
  "aae0+f aaf2+4 ab01+5 ab09+5 ab11+5 ab20+6 ab28+6 ab30+2a ab5c+d ab70+7a abec+1 abf0+9",
  "ac00+2ba3 d7b0+16 d7cb+30 f900+16d fa70+69 fb00+6 fb13+4 fb1d+b fb2a+c fb38+4 fb3e fb40+1",
  "fb43+1 fb46+6b fbd3+16a fd50+3f fd92+35 fdf0+b fe00+f fe20+f fe33+1 fe4d+2 fe70+4 fe76+86",
  "ff10+9 ff21+19 ff3f ff41+19 ff65+59 ffc2+5 ffca+5 ffd2+5 ffda+2 10000+b 1000d+19 10028+12",
  "1003c+1 1003f+e 10050+d 10080+7a 10140+34 101fd 10280+1c 102a0+30 102e0 10300+1f 1032d+1d",
  "10350+2a 10380+1d 103a0+23 103c8+7 103d1+4 10400+9d 104a0+9 104b0+23 104d8+23 10500+27",
  "10530+33 10570+a 1057c+e 1058c+6 10594+1 10597+a 105a3+e 105b3+6 105bb+1 105c0+33 10600+136",
  "10740+15 10760+7 10780+5 10787+29 107b2+8 10800+5 10808 1080a+2b 10837+1 1083c 1083f+16",
  "10860+16 10880+1e 108e0+12 108f4+1 10900+15 10920+19 10940+19 10980+37 109be+1 10a00+3",
  "10a05+1 10a0c+7 10a15+2 10a19+1c 10a38+2 10a3f 10a60+1c 10a80+1c 10ac0+7 10ac9+1d 10b00+35",
  "10b40+15 10b60+12 10b80+11 10c00+48 10c80+32 10cc0+32 10d00+27 10d30+9 10d40+25 10d69+4",
  "10d6f+16 10e80+29 10eab+1 10eb0+1 10ec2+5 10efa+22 10f27 10f30+20 10f70+15 10fb0+14 10fe0+16",
  "11000+46 11066+f 1107f+3b 110c2 110d0+18 110f0+9 11100+34 11136+9 11144+3 11150+23 11176",
  "11180+44 111c9+3 111ce+c 111dc 11200+11 11213+24 1123e+3 11280+6 11288 1128a+3 1128f+e",
  "1129f+9 112b0+3a 112f0+9 11300+3 11305+7 1130f+1 11313+15 1132a+6 11332+1 11335+4 1133b+9",
  "11347+1 1134b+2 11350 11357 1135d+6 11366+6 11370+4 11380+9 1138b 1138e 11390+25 113b7+9",
  "113c2 113c5 113c7+3 113cc+7 113e1+1 11400+4a 11450+9 1145e+3 11480+45 114c7 114d0+9 11580+35",
  "115b8+8 115d8+5 11600+40 11644 11650+9 11680+38 116c0+9 116d0+13 11700+1a 1171d+e 11730+9",
  "11740+6 11800+3a 118a0+49 118ff+7 11909 1190c+7 11915+1 11918+1d 11937+1 1193b+8 11950+9",
  "119a0+7 119aa+2d 119da+7 119e3+1 11a00+3e 11a47 11a50+49 11a9d 11ab0+48 11b60+7 11bc0+20",
  "11bf0+9 11c00+8 11c0a+2c 11c38+8 11c50+9 11c72+1d 11c92+15 11ca9+d 11d00+6 11d08+1 11d0b+2b",
  "11d3a 11d3c+1 11d3f+8 11d50+9 11d60+5 11d67+1 11d6a+24 11d90+1 11d93+5 11da0+9 11db0+2b",
  "11de0+9 11ee0+16 11f00+10 11f12+28 11f3e+4 11f50+a 11fb0 12000+399 12400+6e 12480+c3",
  "12f90+60 13000+42f 13440+15 13460+f9a 14400+246 16100+39 16800+238 16a40+1e 16a60+9 16a70+4e",
  "16ac0+9 16ad0+1d 16af0+4 16b00+36 16b40+3 16b50+9 16b63+14 16b7d+12 16d40+2c 16d70+9",
  "16e40+3f 16ea0+18 16ebb+18 16f00+4a 16f4f+38 16f8f+10 16fe0+1 16fe3+1 16ff0+6 17000+1cd5",
  "18cff+1f 18d80+72 1aff0+3 1aff5+6 1affd+1 1b000+122 1b132 1b150+2 1b155 1b164+3 1b170+18b",
  "1bc00+6a 1bc70+c 1bc80+8 1bc90+9 1bc9d+1 1ccf0+9 1cf00+2d 1cf30+16 1d165+4 1d16d+5 1d17b+7",
  "1d185+6 1d1aa+3 1d242+2 1d400+54 1d456+46 1d49e+1 1d4a2 1d4a5+1 1d4a9+3 1d4ae+b 1d4bb",
  "1d4bd+6 1d4c5+40 1d507+3 1d50d+7 1d516+6 1d51e+1b 1d53b+3 1d540+4 1d546 1d54a+6 1d552+153",
  "1d6a8+18 1d6c2+18 1d6dc+1e 1d6fc+18 1d716+1e 1d736+18 1d750+1e 1d770+18 1d78a+1e 1d7aa+18",
  "1d7c4+7 1d7ce+31 1da00+36 1da3b+31 1da75 1da84 1da9b+4 1daa1+e 1df00+1e 1df25+5 1e000+6",
  "1e008+10 1e01b+6 1e023+1 1e026+4 1e030+3d 1e08f 1e100+2c 1e130+d 1e140+9 1e14e 1e290+1e",
  "1e2c0+39 1e4d0+29 1e5d0+2a 1e6c0+1e 1e6e0+15 1e6fe+1 1e7e0+6 1e7e8+3 1e7ed+1 1e7f0+e",
  "1e800+c4 1e8d0+6 1e900+4b 1e950+9 1ee00+3 1ee05+1a 1ee21+1 1ee24 1ee27 1ee29+9 1ee34+3 1ee39",
  "1ee3b 1ee42 1ee47 1ee49 1ee4b 1ee4d+2 1ee51+1 1ee54 1ee57 1ee59 1ee5b 1ee5d 1ee5f 1ee61+1",
  "1ee64 1ee67+3 1ee6c+6 1ee74+3 1ee79+3 1ee7e 1ee80+9 1ee8b+10 1eea1+2 1eea5+4 1eeab+10",
  "1fbf0+9 20000+a6df 2a700+111d 2b820+168d 2ceb0+1d30 2ebf0+26d 2f800+21d 30000+134a",
  "31350+2129 e0100+ef"]

def idStart : CharSet := .ofTable [
  "41+19 61+19 aa b5 ba c0+16 d8+1e f8+1c9 2c6+b 2e0+4 2ec 2ee 370+4 376+1 37a+3 37f 386 388+2",
  "38c 38e+13 3a3+52 3f7+8a 48a+a5 531+25 559 560+28 5d0+1a 5ef+3 620+2a 66e+1 671+62 6d5 6e5+1",
  "6ee+1 6fa+2 6ff 710 712+1d 74d+58 7b1 7ca+20 7f4+1 7fa 800+15 81a 824 828 840+18 860+a",
  "870+17 889+6 8a0+29 904+35 93d 950 958+9 971+f 985+7 98f+1 993+15 9aa+6 9b2 9b6+3 9bd 9ce",
  "9dc+1 9df+2 9f0+1 9fc a05+5 a0f+1 a13+15 a2a+6 a32+1 a35+1 a38+1 a59+3 a5e a72+2 a85+8 a8f+2",
  "a93+15 aaa+6 ab2+1 ab5+4 abd ad0 ae0+1 af9 b05+7 b0f+1 b13+15 b2a+6 b32+1 b35+4 b3d b5c+1",
  "b5f+2 b71 b83 b85+5 b8e+2 b92+3 b99+1 b9c b9e+1 ba3+1 ba8+2 bae+b bd0 c05+7 c0e+2 c12+16",
  "c2a+f c3d c58+2 c5c+1 c60+1 c80 c85+7 c8e+2 c92+16 caa+9 cb5+4 cbd cdc+2 ce0+1 cf1+1 d04+8",
  "d0e+2 d12+28 d3d d4e d54+2 d5f+2 d7a+5 d85+11 d9a+17 db3+8 dbd dc0+6 e01+2f e32+1 e40+6",
  "e81+1 e84 e86+4 e8c+17 ea5 ea7+9 eb2+1 ebd ec0+4 ec6 edc+3 f00 f40+7 f49+23 f88+4 1000+2a",
  "103f 1050+5 105a+3 1061 1065+1 106e+2 1075+c 108e 10a0+25 10c7 10cd 10d0+2a 10fc+14c 124a+3",
  "1250+6 1258 125a+3 1260+28 128a+3 1290+20 12b2+3 12b8+6 12c0 12c2+3 12c8+e 12d8+38 1312+3",
  "1318+42 1380+f 13a0+55 13f8+5 1401+26b 166f+10 1681+19 16a0+4a 16ee+a 1700+11 171f+12",
  "1740+11 1760+c 176e+2 1780+33 17d7 17dc 1820+58 1880+28 18aa 18b0+45 1900+1e 1950+1d 1970+4",
  "1980+2b 19b0+19 1a00+16 1a20+34 1aa7 1b05+2e 1b45+7 1b83+1d 1bae+1 1bba+2b 1c00+23 1c4d+2",
  "1c5a+23 1c80+a 1c90+2a 1cbd+2 1ce9+3 1cee+5 1cf5+1 1cfa 1d00+bf 1e00+115 1f18+5 1f20+25",
  "1f48+5 1f50+7 1f59 1f5b 1f5d 1f5f+1e 1f80+34 1fb6+6 1fbe 1fc2+2 1fc6+6 1fd0+3 1fd6+5 1fe0+c",
  "1ff2+2 1ff6+6 2071 207f 2090+c 2102 2107 210a+9 2115 2118+5 2124 2126 2128 212a+f 213c+3",
  "2145+4 214e 2160+28 2c00+e4 2ceb+3 2cf2+1 2d00+25 2d27 2d2d 2d30+37 2d6f 2d80+16 2da0+6",
  "2da8+6 2db0+6 2db8+6 2dc0+6 2dc8+6 2dd0+6 2dd8+6 3005+2 3021+8 3031+4 3038+4 3041+55 309b+4",
  "30a1+59 30fc+3 3105+2a 3131+5d 31a0+1f 31f0+f 3400+19bf 4e00+568c a4d0+2d a500+10c a610+f",
  "a62a+1 a640+2e a67f+1e a6a0+4f a717+8 a722+66 a78b+51 a7f1+10 a803+2 a807+3 a80c+16 a840+33",
  "a882+31 a8f2+5 a8fb a8fd+1 a90a+1b a930+16 a960+1c a984+2e a9cf a9e0+4 a9e6+9 a9fa+4 aa00+28",
  "aa40+2 aa44+7 aa60+16 aa7a aa7e+31 aab1 aab5+1 aab9+4 aac0 aac2 aadb+2 aae0+a aaf2+2 ab01+5",
  "ab09+5 ab11+5 ab20+6 ab28+6 ab30+2a ab5c+d ab70+72 ac00+2ba3 d7b0+16 d7cb+30 f900+16d",
  "fa70+69 fb00+6 fb13+4 fb1d fb1f+9 fb2a+c fb38+4 fb3e fb40+1 fb43+1 fb46+6b fbd3+16a fd50+3f",
  "fd92+35 fdf0+b fe70+4 fe76+86 ff21+19 ff41+19 ff66+58 ffc2+5 ffca+5 ffd2+5 ffda+2 10000+b",
  "1000d+19 10028+12 1003c+1 1003f+e 10050+d 10080+7a 10140+34 10280+1c 102a0+30 10300+1f",
  "1032d+1d 10350+25 10380+1d 103a0+23 103c8+7 103d1+4 10400+9d 104b0+23 104d8+23 10500+27",
  "10530+33 10570+a 1057c+e 1058c+6 10594+1 10597+a 105a3+e 105b3+6 105bb+1 105c0+33 10600+136",
  "10740+15 10760+7 10780+5 10787+29 107b2+8 10800+5 10808 1080a+2b 10837+1 1083c 1083f+16",
  "10860+16 10880+1e 108e0+12 108f4+1 10900+15 10920+19 10940+19 10980+37 109be+1 10a00 10a10+3",
  "10a15+2 10a19+1c 10a60+1c 10a80+1c 10ac0+7 10ac9+1b 10b00+35 10b40+15 10b60+12 10b80+11",
  "10c00+48 10c80+32 10cc0+32 10d00+23 10d4a+1b 10d6f+16 10e80+29 10eb0+1 10ec2+5 10f00+1c",
  "10f27 10f30+15 10f70+11 10fb0+14 10fe0+16 11003+34 11071+1 11075 11083+2c 110d0+18 11103+23",
  "11144 11147 11150+22 11176 11183+2f 111c1+3 111da 111dc 11200+11 11213+18 1123f+1 11280+6",
  "11288 1128a+3 1128f+e 1129f+9 112b0+2e 11305+7 1130f+1 11313+15 1132a+6 11332+1 11335+4",
  "1133d 11350 1135d+4 11380+9 1138b 1138e 11390+25 113b7 113d1 113d3 11400+34 11447+3 1145f+2",
  "11480+2f 114c4+1 114c7 11580+2e 115d8+3 11600+2f 11644 11680+2a 116b8 11700+1a 11740+6",
  "11800+2b 118a0+3f 118ff+7 11909 1190c+7 11915+1 11918+17 1193f 11941 119a0+7 119aa+26 119e1",
  "119e3 11a00 11a0b+27 11a3a 11a50 11a5c+2d 11a9d 11ab0+48 11bc0+20 11c00+8 11c0a+24 11c40",
  "11c72+1d 11d00+6 11d08+1 11d0b+25 11d46 11d60+5 11d67+1 11d6a+1f 11d98 11db0+2b 11ee0+12",
  "11f02 11f04+c 11f12+21 11fb0 12000+399 12400+6e 12480+c3 12f90+60 13000+42f 13441+5",
  "13460+f9a 14400+246 16100+1d 16800+238 16a40+1e 16a70+4e 16ad0+1d 16b00+2f 16b40+3 16b63+14",
  "16b7d+12 16d40+2c 16e40+3f 16ea0+18 16ebb+18 16f00+4a 16f50 16f93+c 16fe0+1 16fe3 16ff2+4",
  "17000+1cd5 18cff+1f 18d80+72 1aff0+3 1aff5+6 1affd+1 1b000+122 1b132 1b150+2 1b155 1b164+3",
  "1b170+18b 1bc00+6a 1bc70+c 1bc80+8 1bc90+9 1d400+54 1d456+46 1d49e+1 1d4a2 1d4a5+1 1d4a9+3",
  "1d4ae+b 1d4bb 1d4bd+6 1d4c5+40 1d507+3 1d50d+7 1d516+6 1d51e+1b 1d53b+3 1d540+4 1d546",
  "1d54a+6 1d552+153 1d6a8+18 1d6c2+18 1d6dc+1e 1d6fc+18 1d716+1e 1d736+18 1d750+1e 1d770+18",
  "1d78a+1e 1d7aa+18 1d7c4+7 1df00+1e 1df25+5 1e030+3d 1e100+2c 1e137+6 1e14e 1e290+1d 1e2c0+2b",
  "1e4d0+1b 1e5d0+1d 1e5f0 1e6c0+1e 1e6e0+2 1e6e4+1 1e6e7+6 1e6f0+4 1e6fe+1 1e7e0+6 1e7e8+3",
  "1e7ed+1 1e7f0+e 1e800+c4 1e900+43 1e94b 1ee00+3 1ee05+1a 1ee21+1 1ee24 1ee27 1ee29+9 1ee34+3",
  "1ee39 1ee3b 1ee42 1ee47 1ee49 1ee4b 1ee4d+2 1ee51+1 1ee54 1ee57 1ee59 1ee5b 1ee5d 1ee5f",
  "1ee61+1 1ee64 1ee67+3 1ee6c+6 1ee74+3 1ee79+3 1ee7e 1ee80+9 1ee8b+10 1eea1+2 1eea5+4",
  "1eeab+10 20000+a6df 2a700+111d 2b820+168d 2ceb0+1d30 2ebf0+26d 2f800+21d 30000+134a",
  "31350+2129"]

def ideographic : CharSet := .ofTable [
  "3006+1 3021+8 3038+2 3400+19bf 4e00+51ff f900+16d fa70+69 16fe4 16ff2+4 17000+1cd5 18cff+1f",
  "18d80+72 1b170+18b 20000+a6df 2a700+111d 2b820+168d 2ceb0+1d30 2ebf0+26d 2f800+21d",
  "30000+134a 31350+2129"]

def joinControl : CharSet := .ofTable ["200c+1"]

def logicalOrderException : CharSet := .ofTable ["e40+4 ec0+4 19b5+2 19ba aab5+1 aab9 aabb+1"]

def lowercase : CharSet := .ofTable [
  "61+19 aa b5 ba df+17 f8+7 101 103 105 107 109 10b 10d 10f 111 113 115 117 119 11b 11d 11f",
  "121 123 125 127 129 12b 12d 12f 131 133 135 137+1 13a 13c 13e 140 142 144 146 148+1 14b 14d",
  "14f 151 153 155 157 159 15b 15d 15f 161 163 165 167 169 16b 16d 16f 171 173 175 177 17a 17c",
  "17e+2 183 185 188 18c+1 192 195 199+2 19e 1a1 1a3 1a5 1a8 1aa+1 1ad 1b0 1b4 1b6 1b9+1 1bd+2",
  "1c6 1c9 1cc 1ce 1d0 1d2 1d4 1d6 1d8 1da 1dc+1 1df 1e1 1e3 1e5 1e7 1e9 1eb 1ed 1ef+1 1f3 1f5",
  "1f9 1fb 1fd 1ff 201 203 205 207 209 20b 20d 20f 211 213 215 217 219 21b 21d 21f 221 223 225",
  "227 229 22b 22d 22f 231 233+6 23c 23f+1 242 247 249 24b 24d 24f+44 296+22 2c0+1 2e0+4 345",
  "371 373 377 37a+3 390 3ac+22 3d0+1 3d5+2 3d9 3db 3dd 3df 3e1 3e3 3e5 3e7 3e9 3eb 3ed 3ef+4",
  "3f5 3f8 3fb+1 430+2f 461 463 465 467 469 46b 46d 46f 471 473 475 477 479 47b 47d 47f 481 48b",
  "48d 48f 491 493 495 497 499 49b 49d 49f 4a1 4a3 4a5 4a7 4a9 4ab 4ad 4af 4b1 4b3 4b5 4b7 4b9",
  "4bb 4bd 4bf 4c2 4c4 4c6 4c8 4ca 4cc 4ce+1 4d1 4d3 4d5 4d7 4d9 4db 4dd 4df 4e1 4e3 4e5 4e7",
  "4e9 4eb 4ed 4ef 4f1 4f3 4f5 4f7 4f9 4fb 4fd 4ff 501 503 505 507 509 50b 50d 50f 511 513 515",
  "517 519 51b 51d 51f 521 523 525 527 529 52b 52d 52f 560+28 10d0+2a 10fc+3 13f8+5 1c80+8 1c8a",
  "1d00+bf 1e01 1e03 1e05 1e07 1e09 1e0b 1e0d 1e0f 1e11 1e13 1e15 1e17 1e19 1e1b 1e1d 1e1f 1e21",
  "1e23 1e25 1e27 1e29 1e2b 1e2d 1e2f 1e31 1e33 1e35 1e37 1e39 1e3b 1e3d 1e3f 1e41 1e43 1e45",
  "1e47 1e49 1e4b 1e4d 1e4f 1e51 1e53 1e55 1e57 1e59 1e5b 1e5d 1e5f 1e61 1e63 1e65 1e67 1e69",
  "1e6b 1e6d 1e6f 1e71 1e73 1e75 1e77 1e79 1e7b 1e7d 1e7f 1e81 1e83 1e85 1e87 1e89 1e8b 1e8d",
  "1e8f 1e91 1e93 1e95+8 1e9f 1ea1 1ea3 1ea5 1ea7 1ea9 1eab 1ead 1eaf 1eb1 1eb3 1eb5 1eb7 1eb9",
  "1ebb 1ebd 1ebf 1ec1 1ec3 1ec5 1ec7 1ec9 1ecb 1ecd 1ecf 1ed1 1ed3 1ed5 1ed7 1ed9 1edb 1edd",
  "1edf 1ee1 1ee3 1ee5 1ee7 1ee9 1eeb 1eed 1eef 1ef1 1ef3 1ef5 1ef7 1ef9 1efb 1efd 1eff+8",
  "1f10+5 1f20+7 1f30+7 1f40+5 1f50+7 1f60+7 1f70+d 1f80+7 1f90+7 1fa0+7 1fb0+4 1fb6+1 1fbe",
  "1fc2+2 1fc6+1 1fd0+3 1fd6+1 1fe0+7 1ff2+2 1ff6+1 2071 207f 2090+c 210a 210e+1 2113 212f 2134",
  "2139 213c+1 2146+3 214e 2170+f 2184 24d0+19 2c30+2f 2c61 2c65+1 2c68 2c6a 2c6c 2c71 2c73+1",
  "2c76+7 2c81 2c83 2c85 2c87 2c89 2c8b 2c8d 2c8f 2c91 2c93 2c95 2c97 2c99 2c9b 2c9d 2c9f 2ca1",
  "2ca3 2ca5 2ca7 2ca9 2cab 2cad 2caf 2cb1 2cb3 2cb5 2cb7 2cb9 2cbb 2cbd 2cbf 2cc1 2cc3 2cc5",
  "2cc7 2cc9 2ccb 2ccd 2ccf 2cd1 2cd3 2cd5 2cd7 2cd9 2cdb 2cdd 2cdf 2ce1 2ce3+1 2cec 2cee 2cf3",
  "2d00+25 2d27 2d2d a641 a643 a645 a647 a649 a64b a64d a64f a651 a653 a655 a657 a659 a65b a65d",
  "a65f a661 a663 a665 a667 a669 a66b a66d a681 a683 a685 a687 a689 a68b a68d a68f a691 a693",
  "a695 a697 a699 a69b+2 a723 a725 a727 a729 a72b a72d a72f+2 a733 a735 a737 a739 a73b a73d",
  "a73f a741 a743 a745 a747 a749 a74b a74d a74f a751 a753 a755 a757 a759 a75b a75d a75f a761",
  "a763 a765 a767 a769 a76b a76d a76f+9 a77a a77c a77f a781 a783 a785 a787 a78c a78e a791",
  "a793+2 a797 a799 a79b a79d a79f a7a1 a7a3 a7a5 a7a7 a7a9 a7af a7b5 a7b7 a7b9 a7bb a7bd a7bf",
  "a7c1 a7c3 a7c8 a7ca a7cd a7cf a7d1 a7d3 a7d5 a7d7 a7d9 a7db a7f1+3 a7f6 a7f8+2 ab30+2a",
  "ab5c+d ab70+4f fb00+6 fb13+4 ff41+19 10428+27 104d8+23 10597+a 105a3+e 105b3+6 105bb+1 10780",
  "10783+2 10787+29 107b2+8 10cc0+32 10d70+15 118c0+1f 16e60+1f 16ebb+18 1d41a+19 1d44e+6",
  "1d456+11 1d482+19 1d4b6+3 1d4bb 1d4bd+6 1d4c5+a 1d4ea+19 1d51e+19 1d552+19 1d586+19 1d5ba+19",
  "1d5ee+19 1d622+19 1d656+19 1d68a+1b 1d6c2+18 1d6dc+5 1d6fc+18 1d716+5 1d736+18 1d750+5",
  "1d770+18 1d78a+5 1d7aa+18 1d7c4+5 1d7cb 1df00+9 1df0b+13 1df25+5 1e030+3d 1e922+21"]

def math : CharSet := .ofTable [
  "2b 3c+2 5e 7c 7e ac b1 d7 f7 3d0+2 3d5 3f0+1 3f4+2 606+2 2016 2032+2 2040 2044 2052 2061+3",
  "207a+4 208a+4 20d0+c 20e1 20e5+1 20eb+4 2102 2107 210a+9 2115 2118+5 2124 2128+1 212c+1",
  "212f+2 2133+5 213c+d 214b 2190+17 21a9+5 21b0+1 21b6+1 21bc+1f 21dd 21e4+1 21f4+10b 2308+3",
  "2320+1 237c 239b+1a 23b7 23d0 23dc+6 25a0+1 25ae+9 25bc+5 25c6+1 25ca+1 25cf+4 25e2 25e4",
  "25e7+5 25f8+7 2605+1 2640 2642 2660+3 266d+2 27c0+3f 2900+1ff 2b30+14 2b47+5 fb29 fe61+5",
  "fe68 ff0b ff1c+2 ff3c ff3e ff5c ff5e ffe2 ffe9+3 10d8e+1 1cef0 1d400+54 1d456+46 1d49e+1",
  "1d4a2 1d4a5+1 1d4a9+3 1d4ae+b 1d4bb 1d4bd+6 1d4c5+40 1d507+3 1d50d+7 1d516+6 1d51e+1b",
  "1d53b+3 1d540+4 1d546 1d54a+6 1d552+153 1d6a8+123 1d7ce+31 1ee00+3 1ee05+1a 1ee21+1 1ee24",
  "1ee27 1ee29+9 1ee34+3 1ee39 1ee3b 1ee42 1ee47 1ee49 1ee4b 1ee4d+2 1ee51+1 1ee54 1ee57 1ee59",
  "1ee5b 1ee5d 1ee5f 1ee61+1 1ee64 1ee67+3 1ee6c+6 1ee74+3 1ee79+3 1ee7e 1ee80+9 1ee8b+10",
  "1eea1+2 1eea5+4 1eeab+10 1eef0+1 1f8d0+8"]

def noncharacterCodePoint : CharSet := .ofTable [
  "fdd0+1f fffe+1 1fffe+1 2fffe+1 3fffe+1 4fffe+1 5fffe+1 6fffe+1 7fffe+1 8fffe+1 9fffe+1",
  "afffe+1 bfffe+1 cfffe+1 dfffe+1 efffe+1 ffffe+1 10fffe+1"]

def patternSyntax : CharSet := .ofTable [
  "21+e 3a+6 5b+3 60 7b+3 a1+6 a9 ab+1 ae b0+1 b6 bb bf d7 f7 2010+17 2030+e 2041+12 2055+9",
  "2190+2cf 2500+275 2794+46b 2e00+7f 3001+2 3008+18 3030 fd3e+1 fe45+1"]

def patternWhiteSpace : CharSet := .ofTable ["9+4 20 85 200e+1 2028+1"]

def quotationMark : CharSet := .ofTable [
  "22 27 ab bb 2018+7 2039+1 2e42 300c+3 301d+2 fe41+3 ff02 ff07 ff62+1"]

def radical : CharSet := .ofTable ["2e80+19 2e9b+58 2f00+d5"]

def regionalIndicator : CharSet := .ofTable ["1f1e6+19"]

def sentenceTerminal : CharSet := .ofTable [
  "21 2e 3f 589 61d+2 6d4 700+2 7f9 837 839 83d+1 964+1 104a+1 1362 1367+1 166e 1735+1 17d4+1",
  "1803 1809 1944+1 1aa8+3 1b4e+1 1b5a+1 1b5e+1 1b7d+2 1c3b+1 1c7e+1 2024 203c+1 2047+2 2cf9+2",
  "2e2e 2e3c 2e53+1 3002 a4ff a60e+1 a6f3 a6f7 a876+1 a8ce+1 a92f a9c8+1 aa5d+2 aaf0+1 abeb",
  "fe12 fe15+1 fe52 fe56+1 ff01 ff0e ff1f ff61 10a56+1 10f55+4 10f86+3 11047+1 110be+3 11141+2",
  "111c5+1 111cd 111de+1 11238+1 1123b+1 112a9 113d4+1 1144b+1 115c2+1 115c9+e 11641+1 1173c+2",
  "11944 11946 11a42+1 11a9b+1 11c41+1 11ef7+1 11f43+1 16a6e+1 16af5 16b37+1 16b44 16d6e+1",
  "16e98 1bc9f 1da88"]

def softDotted : CharSet := .ofTable [
  "69+1 12f 249 268 29d 2b2 3f3 456 458 1d62 1d96 1da4 1da8 1e2d 1ecb 2071 2148+1 2c7c 1d422+1",
  "1d456+1 1d48a+1 1d4be+1 1d4f2+1 1d526+1 1d55a+1 1d58e+1 1d5c2+1 1d5f6+1 1d62a+1 1d65e+1",
  "1d692+1 1df1a 1e04c+1 1e068"]

def terminalPunctuation : CharSet := .ofTable [
  "21 2c 2e 3a+1 3f 37e 387 589 5c3 60c 61b 61d+2 6d4 700+a 70c 7f8+1 830+5 837+7 85e 964+1",
  "e5a+1 f08 f0d+5 104a+1 1361+7 166e 16eb+2 1735+1 17d4+2 17da 1802+3 1808+1 1944+1 1aa8+3",
  "1b4e+1 1b5a+1 1b5d+2 1b7d+2 1c3b+4 1c7e+1 2024 203c+1 2047+2 2cf9+2 2e2e 2e3c 2e41 2e4c",
  "2e4e+1 2e53+1 3001+1 a4fe+1 a60d+2 a6f3+4 a876+1 a8ce+1 a92f a9c7+2 aa5d+2 aadf aaf0+1 abeb",
  "fe12 fe15+1 fe50+2 fe54+3 ff01 ff0c ff0e ff1a+1 ff1f ff61 ff64 1039f 103d0 10857 1091f",
  "10a56+1 10af0+5 10b3a+5 10b99+3 10f55+4 10f86+3 11047+6 110be+3 11141+2 111c5+1 111cd",
  "111de+1 11238+4 112a9 113d4+1 1144b+2 1145a+1 115c2+3 115c9+e 11641+1 1173c+2 11944 11946",
  "11a42+1 11a9b+1 11aa1+1 11c41+2 11c71 11ef7+1 11f43+1 12470+4 16a6e+1 16af5 16b37+2 16b44",
  "16d6e+1 16e97+1 1bc9f 1da87+3"]

def unifiedIdeograph : CharSet := .ofTable [
  "3400+19bf 4e00+51ff fa0e+1 fa11 fa13+1 fa1f fa21 fa23+1 fa27+2 20000+a6df 2a700+111d",
  "2b820+168d 2ceb0+1d30 2ebf0+26d 30000+134a 31350+2129"]

def uppercase : CharSet := .ofTable [
  "41+19 c0+16 d8+6 100 102 104 106 108 10a 10c 10e 110 112 114 116 118 11a 11c 11e 120 122 124",
  "126 128 12a 12c 12e 130 132 134 136 139 13b 13d 13f 141 143 145 147 14a 14c 14e 150 152 154",
  "156 158 15a 15c 15e 160 162 164 166 168 16a 16c 16e 170 172 174 176 178+1 17b 17d 181+1 184",
  "186+1 189+2 18e+3 193+1 196+2 19c+1 19f+1 1a2 1a4 1a6+1 1a9 1ac 1ae+1 1b1+2 1b5 1b7+1 1bc",
  "1c4 1c7 1ca 1cd 1cf 1d1 1d3 1d5 1d7 1d9 1db 1de 1e0 1e2 1e4 1e6 1e8 1ea 1ec 1ee 1f1 1f4",
  "1f6+2 1fa 1fc 1fe 200 202 204 206 208 20a 20c 20e 210 212 214 216 218 21a 21c 21e 220 222",
  "224 226 228 22a 22c 22e 230 232 23a+1 23d+1 241 243+3 248 24a 24c 24e 370 372 376 37f 386",
  "388+2 38c 38e+1 391+10 3a3+8 3cf 3d2+2 3d8 3da 3dc 3de 3e0 3e2 3e4 3e6 3e8 3ea 3ec 3ee 3f4",
  "3f7 3f9+1 3fd+32 460 462 464 466 468 46a 46c 46e 470 472 474 476 478 47a 47c 47e 480 48a 48c",
  "48e 490 492 494 496 498 49a 49c 49e 4a0 4a2 4a4 4a6 4a8 4aa 4ac 4ae 4b0 4b2 4b4 4b6 4b8 4ba",
  "4bc 4be 4c0+1 4c3 4c5 4c7 4c9 4cb 4cd 4d0 4d2 4d4 4d6 4d8 4da 4dc 4de 4e0 4e2 4e4 4e6 4e8",
  "4ea 4ec 4ee 4f0 4f2 4f4 4f6 4f8 4fa 4fc 4fe 500 502 504 506 508 50a 50c 50e 510 512 514 516",
  "518 51a 51c 51e 520 522 524 526 528 52a 52c 52e 531+25 10a0+25 10c7 10cd 13a0+55 1c89",
  "1c90+2a 1cbd+2 1e00 1e02 1e04 1e06 1e08 1e0a 1e0c 1e0e 1e10 1e12 1e14 1e16 1e18 1e1a 1e1c",
  "1e1e 1e20 1e22 1e24 1e26 1e28 1e2a 1e2c 1e2e 1e30 1e32 1e34 1e36 1e38 1e3a 1e3c 1e3e 1e40",
  "1e42 1e44 1e46 1e48 1e4a 1e4c 1e4e 1e50 1e52 1e54 1e56 1e58 1e5a 1e5c 1e5e 1e60 1e62 1e64",
  "1e66 1e68 1e6a 1e6c 1e6e 1e70 1e72 1e74 1e76 1e78 1e7a 1e7c 1e7e 1e80 1e82 1e84 1e86 1e88",
  "1e8a 1e8c 1e8e 1e90 1e92 1e94 1e9e 1ea0 1ea2 1ea4 1ea6 1ea8 1eaa 1eac 1eae 1eb0 1eb2 1eb4",
  "1eb6 1eb8 1eba 1ebc 1ebe 1ec0 1ec2 1ec4 1ec6 1ec8 1eca 1ecc 1ece 1ed0 1ed2 1ed4 1ed6 1ed8",
  "1eda 1edc 1ede 1ee0 1ee2 1ee4 1ee6 1ee8 1eea 1eec 1eee 1ef0 1ef2 1ef4 1ef6 1ef8 1efa 1efc",
  "1efe 1f08+7 1f18+5 1f28+7 1f38+7 1f48+5 1f59 1f5b 1f5d 1f5f 1f68+7 1fb8+3 1fc8+3 1fd8+3",
  "1fe8+4 1ff8+3 2102 2107 210b+2 2110+2 2115 2119+4 2124 2126 2128 212a+3 2130+3 213e+1 2145",
  "2160+f 2183 24b6+19 2c00+2f 2c60 2c62+2 2c67 2c69 2c6b 2c6d+3 2c72 2c75 2c7e+2 2c82 2c84",
  "2c86 2c88 2c8a 2c8c 2c8e 2c90 2c92 2c94 2c96 2c98 2c9a 2c9c 2c9e 2ca0 2ca2 2ca4 2ca6 2ca8",
  "2caa 2cac 2cae 2cb0 2cb2 2cb4 2cb6 2cb8 2cba 2cbc 2cbe 2cc0 2cc2 2cc4 2cc6 2cc8 2cca 2ccc",
  "2cce 2cd0 2cd2 2cd4 2cd6 2cd8 2cda 2cdc 2cde 2ce0 2ce2 2ceb 2ced 2cf2 a640 a642 a644 a646",
  "a648 a64a a64c a64e a650 a652 a654 a656 a658 a65a a65c a65e a660 a662 a664 a666 a668 a66a",
  "a66c a680 a682 a684 a686 a688 a68a a68c a68e a690 a692 a694 a696 a698 a69a a722 a724 a726",
  "a728 a72a a72c a72e a732 a734 a736 a738 a73a a73c a73e a740 a742 a744 a746 a748 a74a a74c",
  "a74e a750 a752 a754 a756 a758 a75a a75c a75e a760 a762 a764 a766 a768 a76a a76c a76e a779",
  "a77b a77d+1 a780 a782 a784 a786 a78b a78d a790 a792 a796 a798 a79a a79c a79e a7a0 a7a2 a7a4",
  "a7a6 a7a8 a7aa+4 a7b0+4 a7b6 a7b8 a7ba a7bc a7be a7c0 a7c2 a7c4+3 a7c9 a7cb+1 a7ce a7d0 a7d2",
  "a7d4 a7d6 a7d8 a7da a7dc a7f5 ff21+19 10400+27 104b0+23 10570+a 1057c+e 1058c+6 10594+1",
  "10c80+32 10d50+15 118a0+1f 16e40+1f 16ea0+18 1d400+19 1d434+19 1d468+19 1d49c 1d49e+1 1d4a2",
  "1d4a5+1 1d4a9+3 1d4ae+7 1d4d0+19 1d504+1 1d507+3 1d50d+7 1d516+6 1d538+1 1d53b+3 1d540+4",
  "1d546 1d54a+6 1d56c+19 1d5a0+19 1d5d4+19 1d608+19 1d63c+19 1d670+19 1d6a8+18 1d6e2+18",
  "1d71c+18 1d756+18 1d790+18 1d7ca 1e900+21 1f130+19 1f150+19 1f170+19"]

def variationSelector : CharSet := .ofTable ["180b+2 180f fe00+f e0100+ef"]

def xidContinue : CharSet := .ofTable [
  "30+9 41+19 5f 61+19 aa b5 b7 ba c0+16 d8+1e f8+1c9 2c6+b 2e0+4 2ec 2ee 300+74 376+1 37b+2",
  "37f 386+4 38c 38e+13 3a3+52 3f7+8a 483+4 48a+a5 531+25 559 560+28 591+2c 5bf 5c1+1 5c4+1 5c7",
  "5d0+1a 5ef+3 610+a 620+49 66e+65 6d5+7 6df+9 6ea+12 6ff 710+3a 74d+64 7c0+35 7fa 7fd 800+2d",
  "840+1b 860+a 870+17 889+6 897+4a 8e3+80 966+9 971+12 985+7 98f+1 993+15 9aa+6 9b2 9b6+3",
  "9bc+8 9c7+1 9cb+3 9d7 9dc+1 9df+4 9e6+b 9fc 9fe a01+2 a05+5 a0f+1 a13+15 a2a+6 a32+1 a35+1",
  "a38+1 a3c a3e+4 a47+1 a4b+2 a51 a59+3 a5e a66+f a81+2 a85+8 a8f+2 a93+15 aaa+6 ab2+1 ab5+4",
  "abc+9 ac7+2 acb+2 ad0 ae0+3 ae6+9 af9+6 b01+2 b05+7 b0f+1 b13+15 b2a+6 b32+1 b35+4 b3c+8",
  "b47+1 b4b+2 b55+2 b5c+1 b5f+4 b66+9 b71 b82+1 b85+5 b8e+2 b92+3 b99+1 b9c b9e+1 ba3+1 ba8+2",
  "bae+b bbe+4 bc6+2 bca+3 bd0 bd7 be6+9 c00+c c0e+2 c12+16 c2a+f c3c+8 c46+2 c4a+3 c55+1 c58+2",
  "c5c+1 c60+3 c66+9 c80+3 c85+7 c8e+2 c92+16 caa+9 cb5+4 cbc+8 cc6+2 cca+3 cd5+1 cdc+2 ce0+3",
  "ce6+9 cf1+2 d00+c d0e+2 d12+32 d46+2 d4a+4 d54+3 d5f+4 d66+9 d7a+5 d81+2 d85+11 d9a+17 db3+8",
  "dbd dc0+6 dca dcf+5 dd6 dd8+7 de6+9 df2+1 e01+39 e40+e e50+9 e81+1 e84 e86+4 e8c+17 ea5",
  "ea7+16 ec0+4 ec6 ec8+6 ed0+9 edc+3 f00 f18+1 f20+9 f35 f37 f39 f3e+9 f49+23 f71+13 f86+11",
  "f99+23 fc6 1000+49 1050+4d 10a0+25 10c7 10cd 10d0+2a 10fc+14c 124a+3 1250+6 1258 125a+3",
  "1260+28 128a+3 1290+20 12b2+3 12b8+6 12c0 12c2+3 12c8+e 12d8+38 1312+3 1318+42 135d+2 1369+8",
  "1380+f 13a0+55 13f8+5 1401+26b 166f+10 1681+19 16a0+4a 16ee+a 1700+15 171f+15 1740+13 1760+c",
  "176e+2 1772+1 1780+53 17d7 17dc+1 17e0+9 180b+2 180f+a 1820+58 1880+2a 18b0+45 1900+1e",
  "1920+b 1930+b 1946+27 1970+4 1980+2b 19b0+19 19d0+a 1a00+1b 1a20+3e 1a60+1c 1a7f+a 1a90+9",
  "1aa7 1ab0+d 1abf+1e 1ae0+b 1b00+4c 1b50+9 1b6b+8 1b80+73 1c00+37 1c40+9 1c4d+30 1c80+a",
  "1c90+2a 1cbd+2 1cd0+2 1cd4+26 1d00+215 1f18+5 1f20+25 1f48+5 1f50+7 1f59 1f5b 1f5d 1f5f+1e",
  "1f80+34 1fb6+6 1fbe 1fc2+2 1fc6+6 1fd0+3 1fd6+5 1fe0+c 1ff2+2 1ff6+6 200c+1 203f+1 2054 2071",
  "207f 2090+c 20d0+c 20e1 20e5+b 2102 2107 210a+9 2115 2118+5 2124 2126 2128 212a+f 213c+3",
  "2145+4 214e 2160+28 2c00+e4 2ceb+8 2d00+25 2d27 2d2d 2d30+37 2d6f 2d7f+17 2da0+6 2da8+6",
  "2db0+6 2db8+6 2dc0+6 2dc8+6 2dd0+6 2dd8+6 2de0+1f 3005+2 3021+e 3031+4 3038+4 3041+55 3099+1",
  "309d+2 30a1+5e 3105+2a 3131+5d 31a0+1f 31f0+f 3400+19bf 4e00+568c a4d0+2d a500+10c a610+1b",
  "a640+2f a674+9 a67f+72 a717+8 a722+66 a78b+51 a7f1+36 a82c a840+33 a880+45 a8d0+9 a8e0+17",
  "a8fb a8fd+30 a930+23 a960+1c a980+40 a9cf+a a9e0+1e aa00+36 aa40+d aa50+9 aa60+16 aa7a+48",
  "aadb+2 aae0+f aaf2+4 ab01+5 ab09+5 ab11+5 ab20+6 ab28+6 ab30+2a ab5c+d ab70+7a abec+1 abf0+9",
  "ac00+2ba3 d7b0+16 d7cb+30 f900+16d fa70+69 fb00+6 fb13+4 fb1d+b fb2a+c fb38+4 fb3e fb40+1",
  "fb43+1 fb46+6b fbd3+8a fc64+d9 fd50+3f fd92+35 fdf0+9 fe00+f fe20+f fe33+1 fe4d+2 fe71 fe73",
  "fe77 fe79 fe7b fe7d fe7f+7d ff10+9 ff21+19 ff3f ff41+19 ff65+59 ffc2+5 ffca+5 ffd2+5 ffda+2",
  "10000+b 1000d+19 10028+12 1003c+1 1003f+e 10050+d 10080+7a 10140+34 101fd 10280+1c 102a0+30",
  "102e0 10300+1f 1032d+1d 10350+2a 10380+1d 103a0+23 103c8+7 103d1+4 10400+9d 104a0+9 104b0+23",
  "104d8+23 10500+27 10530+33 10570+a 1057c+e 1058c+6 10594+1 10597+a 105a3+e 105b3+6 105bb+1",
  "105c0+33 10600+136 10740+15 10760+7 10780+5 10787+29 107b2+8 10800+5 10808 1080a+2b 10837+1",
  "1083c 1083f+16 10860+16 10880+1e 108e0+12 108f4+1 10900+15 10920+19 10940+19 10980+37",
  "109be+1 10a00+3 10a05+1 10a0c+7 10a15+2 10a19+1c 10a38+2 10a3f 10a60+1c 10a80+1c 10ac0+7",
  "10ac9+1d 10b00+35 10b40+15 10b60+12 10b80+11 10c00+48 10c80+32 10cc0+32 10d00+27 10d30+9",
  "10d40+25 10d69+4 10d6f+16 10e80+29 10eab+1 10eb0+1 10ec2+5 10efa+22 10f27 10f30+20 10f70+15",
  "10fb0+14 10fe0+16 11000+46 11066+f 1107f+3b 110c2 110d0+18 110f0+9 11100+34 11136+9 11144+3",
  "11150+23 11176 11180+44 111c9+3 111ce+c 111dc 11200+11 11213+24 1123e+3 11280+6 11288",
  "1128a+3 1128f+e 1129f+9 112b0+3a 112f0+9 11300+3 11305+7 1130f+1 11313+15 1132a+6 11332+1",
  "11335+4 1133b+9 11347+1 1134b+2 11350 11357 1135d+6 11366+6 11370+4 11380+9 1138b 1138e",
  "11390+25 113b7+9 113c2 113c5 113c7+3 113cc+7 113e1+1 11400+4a 11450+9 1145e+3 11480+45 114c7",
  "114d0+9 11580+35 115b8+8 115d8+5 11600+40 11644 11650+9 11680+38 116c0+9 116d0+13 11700+1a",
  "1171d+e 11730+9 11740+6 11800+3a 118a0+49 118ff+7 11909 1190c+7 11915+1 11918+1d 11937+1",
  "1193b+8 11950+9 119a0+7 119aa+2d 119da+7 119e3+1 11a00+3e 11a47 11a50+49 11a9d 11ab0+48",
  "11b60+7 11bc0+20 11bf0+9 11c00+8 11c0a+2c 11c38+8 11c50+9 11c72+1d 11c92+15 11ca9+d 11d00+6",
  "11d08+1 11d0b+2b 11d3a 11d3c+1 11d3f+8 11d50+9 11d60+5 11d67+1 11d6a+24 11d90+1 11d93+5",
  "11da0+9 11db0+2b 11de0+9 11ee0+16 11f00+10 11f12+28 11f3e+4 11f50+a 11fb0 12000+399 12400+6e",
  "12480+c3 12f90+60 13000+42f 13440+15 13460+f9a 14400+246 16100+39 16800+238 16a40+1e 16a60+9",
  "16a70+4e 16ac0+9 16ad0+1d 16af0+4 16b00+36 16b40+3 16b50+9 16b63+14 16b7d+12 16d40+2c",
  "16d70+9 16e40+3f 16ea0+18 16ebb+18 16f00+4a 16f4f+38 16f8f+10 16fe0+1 16fe3+1 16ff0+6",
  "17000+1cd5 18cff+1f 18d80+72 1aff0+3 1aff5+6 1affd+1 1b000+122 1b132 1b150+2 1b155 1b164+3",
  "1b170+18b 1bc00+6a 1bc70+c 1bc80+8 1bc90+9 1bc9d+1 1ccf0+9 1cf00+2d 1cf30+16 1d165+4 1d16d+5",
  "1d17b+7 1d185+6 1d1aa+3 1d242+2 1d400+54 1d456+46 1d49e+1 1d4a2 1d4a5+1 1d4a9+3 1d4ae+b",
  "1d4bb 1d4bd+6 1d4c5+40 1d507+3 1d50d+7 1d516+6 1d51e+1b 1d53b+3 1d540+4 1d546 1d54a+6",
  "1d552+153 1d6a8+18 1d6c2+18 1d6dc+1e 1d6fc+18 1d716+1e 1d736+18 1d750+1e 1d770+18 1d78a+1e",
  "1d7aa+18 1d7c4+7 1d7ce+31 1da00+36 1da3b+31 1da75 1da84 1da9b+4 1daa1+e 1df00+1e 1df25+5",
  "1e000+6 1e008+10 1e01b+6 1e023+1 1e026+4 1e030+3d 1e08f 1e100+2c 1e130+d 1e140+9 1e14e",
  "1e290+1e 1e2c0+39 1e4d0+29 1e5d0+2a 1e6c0+1e 1e6e0+15 1e6fe+1 1e7e0+6 1e7e8+3 1e7ed+1",
  "1e7f0+e 1e800+c4 1e8d0+6 1e900+4b 1e950+9 1ee00+3 1ee05+1a 1ee21+1 1ee24 1ee27 1ee29+9",
  "1ee34+3 1ee39 1ee3b 1ee42 1ee47 1ee49 1ee4b 1ee4d+2 1ee51+1 1ee54 1ee57 1ee59 1ee5b 1ee5d",
  "1ee5f 1ee61+1 1ee64 1ee67+3 1ee6c+6 1ee74+3 1ee79+3 1ee7e 1ee80+9 1ee8b+10 1eea1+2 1eea5+4",
  "1eeab+10 1fbf0+9 20000+a6df 2a700+111d 2b820+168d 2ceb0+1d30 2ebf0+26d 2f800+21d 30000+134a",
  "31350+2129 e0100+ef"]

def xidStart : CharSet := .ofTable [
  "41+19 61+19 aa b5 ba c0+16 d8+1e f8+1c9 2c6+b 2e0+4 2ec 2ee 370+4 376+1 37b+2 37f 386 388+2",
  "38c 38e+13 3a3+52 3f7+8a 48a+a5 531+25 559 560+28 5d0+1a 5ef+3 620+2a 66e+1 671+62 6d5 6e5+1",
  "6ee+1 6fa+2 6ff 710 712+1d 74d+58 7b1 7ca+20 7f4+1 7fa 800+15 81a 824 828 840+18 860+a",
  "870+17 889+6 8a0+29 904+35 93d 950 958+9 971+f 985+7 98f+1 993+15 9aa+6 9b2 9b6+3 9bd 9ce",
  "9dc+1 9df+2 9f0+1 9fc a05+5 a0f+1 a13+15 a2a+6 a32+1 a35+1 a38+1 a59+3 a5e a72+2 a85+8 a8f+2",
  "a93+15 aaa+6 ab2+1 ab5+4 abd ad0 ae0+1 af9 b05+7 b0f+1 b13+15 b2a+6 b32+1 b35+4 b3d b5c+1",
  "b5f+2 b71 b83 b85+5 b8e+2 b92+3 b99+1 b9c b9e+1 ba3+1 ba8+2 bae+b bd0 c05+7 c0e+2 c12+16",
  "c2a+f c3d c58+2 c5c+1 c60+1 c80 c85+7 c8e+2 c92+16 caa+9 cb5+4 cbd cdc+2 ce0+1 cf1+1 d04+8",
  "d0e+2 d12+28 d3d d4e d54+2 d5f+2 d7a+5 d85+11 d9a+17 db3+8 dbd dc0+6 e01+2f e32 e40+6 e81+1",
  "e84 e86+4 e8c+17 ea5 ea7+9 eb2 ebd ec0+4 ec6 edc+3 f00 f40+7 f49+23 f88+4 1000+2a 103f",
  "1050+5 105a+3 1061 1065+1 106e+2 1075+c 108e 10a0+25 10c7 10cd 10d0+2a 10fc+14c 124a+3",
  "1250+6 1258 125a+3 1260+28 128a+3 1290+20 12b2+3 12b8+6 12c0 12c2+3 12c8+e 12d8+38 1312+3",
  "1318+42 1380+f 13a0+55 13f8+5 1401+26b 166f+10 1681+19 16a0+4a 16ee+a 1700+11 171f+12",
  "1740+11 1760+c 176e+2 1780+33 17d7 17dc 1820+58 1880+28 18aa 18b0+45 1900+1e 1950+1d 1970+4",
  "1980+2b 19b0+19 1a00+16 1a20+34 1aa7 1b05+2e 1b45+7 1b83+1d 1bae+1 1bba+2b 1c00+23 1c4d+2",
  "1c5a+23 1c80+a 1c90+2a 1cbd+2 1ce9+3 1cee+5 1cf5+1 1cfa 1d00+bf 1e00+115 1f18+5 1f20+25",
  "1f48+5 1f50+7 1f59 1f5b 1f5d 1f5f+1e 1f80+34 1fb6+6 1fbe 1fc2+2 1fc6+6 1fd0+3 1fd6+5 1fe0+c",
  "1ff2+2 1ff6+6 2071 207f 2090+c 2102 2107 210a+9 2115 2118+5 2124 2126 2128 212a+f 213c+3",
  "2145+4 214e 2160+28 2c00+e4 2ceb+3 2cf2+1 2d00+25 2d27 2d2d 2d30+37 2d6f 2d80+16 2da0+6",
  "2da8+6 2db0+6 2db8+6 2dc0+6 2dc8+6 2dd0+6 2dd8+6 3005+2 3021+8 3031+4 3038+4 3041+55 309d+2",
  "30a1+59 30fc+3 3105+2a 3131+5d 31a0+1f 31f0+f 3400+19bf 4e00+568c a4d0+2d a500+10c a610+f",
  "a62a+1 a640+2e a67f+1e a6a0+4f a717+8 a722+66 a78b+51 a7f1+10 a803+2 a807+3 a80c+16 a840+33",
  "a882+31 a8f2+5 a8fb a8fd+1 a90a+1b a930+16 a960+1c a984+2e a9cf a9e0+4 a9e6+9 a9fa+4 aa00+28",
  "aa40+2 aa44+7 aa60+16 aa7a aa7e+31 aab1 aab5+1 aab9+4 aac0 aac2 aadb+2 aae0+a aaf2+2 ab01+5",
  "ab09+5 ab11+5 ab20+6 ab28+6 ab30+2a ab5c+d ab70+72 ac00+2ba3 d7b0+16 d7cb+30 f900+16d",
  "fa70+69 fb00+6 fb13+4 fb1d fb1f+9 fb2a+c fb38+4 fb3e fb40+1 fb43+1 fb46+6b fbd3+8a fc64+d9",
  "fd50+3f fd92+35 fdf0+9 fe71 fe73 fe77 fe79 fe7b fe7d fe7f+7d ff21+19 ff41+19 ff66+37 ffa0+1e",
  "ffc2+5 ffca+5 ffd2+5 ffda+2 10000+b 1000d+19 10028+12 1003c+1 1003f+e 10050+d 10080+7a",
  "10140+34 10280+1c 102a0+30 10300+1f 1032d+1d 10350+25 10380+1d 103a0+23 103c8+7 103d1+4",
  "10400+9d 104b0+23 104d8+23 10500+27 10530+33 10570+a 1057c+e 1058c+6 10594+1 10597+a 105a3+e",
  "105b3+6 105bb+1 105c0+33 10600+136 10740+15 10760+7 10780+5 10787+29 107b2+8 10800+5 10808",
  "1080a+2b 10837+1 1083c 1083f+16 10860+16 10880+1e 108e0+12 108f4+1 10900+15 10920+19",
  "10940+19 10980+37 109be+1 10a00 10a10+3 10a15+2 10a19+1c 10a60+1c 10a80+1c 10ac0+7 10ac9+1b",
  "10b00+35 10b40+15 10b60+12 10b80+11 10c00+48 10c80+32 10cc0+32 10d00+23 10d4a+1b 10d6f+16",
  "10e80+29 10eb0+1 10ec2+5 10f00+1c 10f27 10f30+15 10f70+11 10fb0+14 10fe0+16 11003+34 11071+1",
  "11075 11083+2c 110d0+18 11103+23 11144 11147 11150+22 11176 11183+2f 111c1+3 111da 111dc",
  "11200+11 11213+18 1123f+1 11280+6 11288 1128a+3 1128f+e 1129f+9 112b0+2e 11305+7 1130f+1",
  "11313+15 1132a+6 11332+1 11335+4 1133d 11350 1135d+4 11380+9 1138b 1138e 11390+25 113b7",
  "113d1 113d3 11400+34 11447+3 1145f+2 11480+2f 114c4+1 114c7 11580+2e 115d8+3 11600+2f 11644",
  "11680+2a 116b8 11700+1a 11740+6 11800+2b 118a0+3f 118ff+7 11909 1190c+7 11915+1 11918+17",
  "1193f 11941 119a0+7 119aa+26 119e1 119e3 11a00 11a0b+27 11a3a 11a50 11a5c+2d 11a9d 11ab0+48",
  "11bc0+20 11c00+8 11c0a+24 11c40 11c72+1d 11d00+6 11d08+1 11d0b+25 11d46 11d60+5 11d67+1",
  "11d6a+1f 11d98 11db0+2b 11ee0+12 11f02 11f04+c 11f12+21 11fb0 12000+399 12400+6e 12480+c3",
  "12f90+60 13000+42f 13441+5 13460+f9a 14400+246 16100+1d 16800+238 16a40+1e 16a70+4e 16ad0+1d",
  "16b00+2f 16b40+3 16b63+14 16b7d+12 16d40+2c 16e40+3f 16ea0+18 16ebb+18 16f00+4a 16f50",
  "16f93+c 16fe0+1 16fe3 16ff2+4 17000+1cd5 18cff+1f 18d80+72 1aff0+3 1aff5+6 1affd+1 1b000+122",
  "1b132 1b150+2 1b155 1b164+3 1b170+18b 1bc00+6a 1bc70+c 1bc80+8 1bc90+9 1d400+54 1d456+46",
  "1d49e+1 1d4a2 1d4a5+1 1d4a9+3 1d4ae+b 1d4bb 1d4bd+6 1d4c5+40 1d507+3 1d50d+7 1d516+6",
  "1d51e+1b 1d53b+3 1d540+4 1d546 1d54a+6 1d552+153 1d6a8+18 1d6c2+18 1d6dc+1e 1d6fc+18",
  "1d716+1e 1d736+18 1d750+1e 1d770+18 1d78a+1e 1d7aa+18 1d7c4+7 1df00+1e 1df25+5 1e030+3d",
  "1e100+2c 1e137+6 1e14e 1e290+1d 1e2c0+2b 1e4d0+1b 1e5d0+1d 1e5f0 1e6c0+1e 1e6e0+2 1e6e4+1",
  "1e6e7+6 1e6f0+4 1e6fe+1 1e7e0+6 1e7e8+3 1e7ed+1 1e7f0+e 1e800+c4 1e900+43 1e94b 1ee00+3",
  "1ee05+1a 1ee21+1 1ee24 1ee27 1ee29+9 1ee34+3 1ee39 1ee3b 1ee42 1ee47 1ee49 1ee4b 1ee4d+2",
  "1ee51+1 1ee54 1ee57 1ee59 1ee5b 1ee5d 1ee5f 1ee61+1 1ee64 1ee67+3 1ee6c+6 1ee74+3 1ee79+3",
  "1ee7e 1ee80+9 1ee8b+10 1eea1+2 1eea5+4 1eeab+10 20000+a6df 2a700+111d 2b820+168d 2ceb0+1d30",
  "2ebf0+26d 2f800+21d 30000+134a 31350+2129"]

/-- The properties by their names, written without case and separators. -/
def all : List (List String × CharSet) := [
  (["ahex", "asciihexdigit"], asciiHexDigit),
  (["alpha", "alphabetic"], alphabetic),
  (["bidic", "bidicontrol"], bidiControl),
  (["bidim", "bidimirrored"], bidiMirrored),
  (["ci", "caseignorable"], caseIgnorable),
  (["cased"], cased),
  (["cwcf", "changeswhencasefolded"], changesWhenCasefolded),
  (["cwcm", "changeswhencasemapped"], changesWhenCasemapped),
  (["cwl", "changeswhenlowercased"], changesWhenLowercased),
  (["cwt", "changeswhentitlecased"], changesWhenTitlecased),
  (["cwu", "changeswhenuppercased"], changesWhenUppercased),
  (["dash"], dash),
  (["di", "defaultignorablecodepoint"], defaultIgnorableCodePoint),
  (["dep", "deprecated"], deprecated),
  (["dia", "diacritic"], diacritic),
  (["emoji"], emoji),
  (["ecomp", "emojicomponent"], emojiComponent),
  (["emod", "emojimodifier"], emojiModifier),
  (["ebase", "emojimodifierbase"], emojiModifierBase),
  (["epres", "emojipresentation"], emojiPresentation),
  (["extpict", "extendedpictographic"], extendedPictographic),
  (["ext", "extender"], extender),
  (["grbase", "graphemebase"], graphemeBase),
  (["grext", "graphemeextend"], graphemeExtend),
  (["hex", "hexdigit"], hexDigit),
  (["idsb", "idsbinaryoperator"], idsBinaryOperator),
  (["idst", "idstrinaryoperator"], idsTrinaryOperator),
  (["idc", "idcontinue"], idContinue),
  (["ids", "idstart"], idStart),
  (["ideo", "ideographic"], ideographic),
  (["joinc", "joincontrol"], joinControl),
  (["loe", "logicalorderexception"], logicalOrderException),
  (["lower", "lowercase"], lowercase),
  (["math"], math),
  (["nchar", "noncharactercodepoint"], noncharacterCodePoint),
  (["patsyn", "patternsyntax"], patternSyntax),
  (["patws", "patternwhitespace"], patternWhiteSpace),
  (["qmark", "quotationmark"], quotationMark),
  (["radical"], radical),
  (["ri", "regionalindicator"], regionalIndicator),
  (["sterm", "sentenceterminal"], sentenceTerminal),
  (["sd", "softdotted"], softDotted),
  (["term", "terminalpunctuation"], terminalPunctuation),
  (["uideo", "unifiedideograph"], unifiedIdeograph),
  (["upper", "uppercase"], uppercase),
  (["vs", "variationselector"], variationSelector),
  (["xidc", "xidcontinue"], xidContinue),
  (["xids", "xidstart"], xidStart)]

end Polyglot.Unicode.Property
