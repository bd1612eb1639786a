import Polyglot.Unicode.CharSet

/-!
# General categories

Every character has one general category of two letters. The first letter names the group: the
letters `L`, the marks `M`, the numbers `N`, the punctuation `P`, the symbols `S`, the separators
`Z` and the rest `C`. A group is the union of its members.
-/

namespace Polyglot.Unicode

/-! ## The categories -/

def uppercaseLetter : CharSet := .ofTable [
  "41+19 c0+16 d8+6 100 102 104 106 108 10a 10c 10e 110 112 114 116 118 11a 11c 11e 120 122 124",
  "126 128 12a 12c 12e 130 132 134 136 139 13b 13d 13f 141 143 145 147 14a 14c 14e 150 152 154",
  "156 158 15a 15c 15e 160 162 164 166 168 16a 16c 16e 170 172 174 176 178+1 17b 17d 181+1 184",
  "186+1 189+2 18e+3 193+1 196+2 19c+1 19f+1 1a2 1a4 1a6+1 1a9 1ac 1ae+1 1b1+2 1b5 1b7+1 1bc",
  "1c4 1c7 1ca 1cd 1cf 1d1 1d3 1d5 1d7 1d9 1db 1de 1e0 1e2 1e4 1e6 1e8 1ea 1ec 1ee 1f1 1f4",
  "1f6+2 1fa 1fc 1fe 200 202 204 206 208 20a 20c 20e 210 212 214 216 218 21a 21c 21e 220 222",
  "224 226 228 22a 22c 22e 230 232 23a+1 23d+1 241 243+3 248 24a 24c 24e 370 372 376 37f 386",
  "388+2 38c 38e+1 391+10 3a3+8 3cf 3d2+2 3d8 3da 3dc 3de 3e0 3e2 3e4 3e6 3e8 3ea 3ec 3ee 3f4",
  "3f7 3f9+1 3fd+32 460 462 464 466 468 46a 46c 46e 470 472 474 476 478 47a 47c 47e 480 48a 48c",
  "48e 490 492 494 496 498 49a 49c 49e 4a0 4a2 4a4 4a6 4a8 4aa 4ac 4ae 4b0 4b2 4b4 4b6 4b8 4ba",
  "4bc 4be 4c0+1 4c3 4c5 4c7 4c9 4cb 4cd 4d0 4d2 4d4 4d6 4d8 4da 4dc 4de 4e0 4e2 4e4 4e6 4e8",
  "4ea 4ec 4ee 4f0 4f2 4f4 4f6 4f8 4fa 4fc 4fe 500 502 504 506 508 50a 50c 50e 510 512 514 516",
  "518 51a 51c 51e 520 522 524 526 528 52a 52c 52e 531+25 10a0+25 10c7 10cd 13a0+55 1c89",
  "1c90+2a 1cbd+2 1e00 1e02 1e04 1e06 1e08 1e0a 1e0c 1e0e 1e10 1e12 1e14 1e16 1e18 1e1a 1e1c",
  "1e1e 1e20 1e22 1e24 1e26 1e28 1e2a 1e2c 1e2e 1e30 1e32 1e34 1e36 1e38 1e3a 1e3c 1e3e 1e40",
  "1e42 1e44 1e46 1e48 1e4a 1e4c 1e4e 1e50 1e52 1e54 1e56 1e58 1e5a 1e5c 1e5e 1e60 1e62 1e64",
  "1e66 1e68 1e6a 1e6c 1e6e 1e70 1e72 1e74 1e76 1e78 1e7a 1e7c 1e7e 1e80 1e82 1e84 1e86 1e88",
  "1e8a 1e8c 1e8e 1e90 1e92 1e94 1e9e 1ea0 1ea2 1ea4 1ea6 1ea8 1eaa 1eac 1eae 1eb0 1eb2 1eb4",
  "1eb6 1eb8 1eba 1ebc 1ebe 1ec0 1ec2 1ec4 1ec6 1ec8 1eca 1ecc 1ece 1ed0 1ed2 1ed4 1ed6 1ed8",
  "1eda 1edc 1ede 1ee0 1ee2 1ee4 1ee6 1ee8 1eea 1eec 1eee 1ef0 1ef2 1ef4 1ef6 1ef8 1efa 1efc",
  "1efe 1f08+7 1f18+5 1f28+7 1f38+7 1f48+5 1f59 1f5b 1f5d 1f5f 1f68+7 1fb8+3 1fc8+3 1fd8+3",
  "1fe8+4 1ff8+3 2102 2107 210b+2 2110+2 2115 2119+4 2124 2126 2128 212a+3 2130+3 213e+1 2145",
  "2183 2c00+2f 2c60 2c62+2 2c67 2c69 2c6b 2c6d+3 2c72 2c75 2c7e+2 2c82 2c84 2c86 2c88 2c8a",
  "2c8c 2c8e 2c90 2c92 2c94 2c96 2c98 2c9a 2c9c 2c9e 2ca0 2ca2 2ca4 2ca6 2ca8 2caa 2cac 2cae",
  "2cb0 2cb2 2cb4 2cb6 2cb8 2cba 2cbc 2cbe 2cc0 2cc2 2cc4 2cc6 2cc8 2cca 2ccc 2cce 2cd0 2cd2",
  "2cd4 2cd6 2cd8 2cda 2cdc 2cde 2ce0 2ce2 2ceb 2ced 2cf2 a640 a642 a644 a646 a648 a64a a64c",
  "a64e a650 a652 a654 a656 a658 a65a a65c a65e a660 a662 a664 a666 a668 a66a a66c a680 a682",
  "a684 a686 a688 a68a a68c a68e a690 a692 a694 a696 a698 a69a a722 a724 a726 a728 a72a a72c",
  "a72e a732 a734 a736 a738 a73a a73c a73e a740 a742 a744 a746 a748 a74a a74c a74e a750 a752",
  "a754 a756 a758 a75a a75c a75e a760 a762 a764 a766 a768 a76a a76c a76e a779 a77b a77d+1 a780",
  "a782 a784 a786 a78b a78d a790 a792 a796 a798 a79a a79c a79e a7a0 a7a2 a7a4 a7a6 a7a8 a7aa+4",
  "a7b0+4 a7b6 a7b8 a7ba a7bc a7be a7c0 a7c2 a7c4+3 a7c9 a7cb+1 a7ce a7d0 a7d2 a7d4 a7d6 a7d8",
  "a7da a7dc a7f5 ff21+19 10400+27 104b0+23 10570+a 1057c+e 1058c+6 10594+1 10c80+32 10d50+15",
  "118a0+1f 16e40+1f 16ea0+18 1d400+19 1d434+19 1d468+19 1d49c 1d49e+1 1d4a2 1d4a5+1 1d4a9+3",
  "1d4ae+7 1d4d0+19 1d504+1 1d507+3 1d50d+7 1d516+6 1d538+1 1d53b+3 1d540+4 1d546 1d54a+6",
  "1d56c+19 1d5a0+19 1d5d4+19 1d608+19 1d63c+19 1d670+19 1d6a8+18 1d6e2+18 1d71c+18 1d756+18",
  "1d790+18 1d7ca 1e900+21"]

def lowercaseLetter : CharSet := .ofTable [
  "61+19 b5 df+17 f8+7 101 103 105 107 109 10b 10d 10f 111 113 115 117 119 11b 11d 11f 121 123",
  "125 127 129 12b 12d 12f 131 133 135 137+1 13a 13c 13e 140 142 144 146 148+1 14b 14d 14f 151",
  "153 155 157 159 15b 15d 15f 161 163 165 167 169 16b 16d 16f 171 173 175 177 17a 17c 17e+2",
  "183 185 188 18c+1 192 195 199+2 19e 1a1 1a3 1a5 1a8 1aa+1 1ad 1b0 1b4 1b6 1b9+1 1bd+2 1c6",
  "1c9 1cc 1ce 1d0 1d2 1d4 1d6 1d8 1da 1dc+1 1df 1e1 1e3 1e5 1e7 1e9 1eb 1ed 1ef+1 1f3 1f5 1f9",
  "1fb 1fd 1ff 201 203 205 207 209 20b 20d 20f 211 213 215 217 219 21b 21d 21f 221 223 225 227",
  "229 22b 22d 22f 231 233+6 23c 23f+1 242 247 249 24b 24d 24f+44 296+19 371 373 377 37b+2 390",
  "3ac+22 3d0+1 3d5+2 3d9 3db 3dd 3df 3e1 3e3 3e5 3e7 3e9 3eb 3ed 3ef+4 3f5 3f8 3fb+1 430+2f",
  "461 463 465 467 469 46b 46d 46f 471 473 475 477 479 47b 47d 47f 481 48b 48d 48f 491 493 495",
  "497 499 49b 49d 49f 4a1 4a3 4a5 4a7 4a9 4ab 4ad 4af 4b1 4b3 4b5 4b7 4b9 4bb 4bd 4bf 4c2 4c4",
  "4c6 4c8 4ca 4cc 4ce+1 4d1 4d3 4d5 4d7 4d9 4db 4dd 4df 4e1 4e3 4e5 4e7 4e9 4eb 4ed 4ef 4f1",
  "4f3 4f5 4f7 4f9 4fb 4fd 4ff 501 503 505 507 509 50b 50d 50f 511 513 515 517 519 51b 51d 51f",
  "521 523 525 527 529 52b 52d 52f 560+28 10d0+2a 10fd+2 13f8+5 1c80+8 1c8a 1d00+2b 1d6b+c",
  "1d79+21 1e01 1e03 1e05 1e07 1e09 1e0b 1e0d 1e0f 1e11 1e13 1e15 1e17 1e19 1e1b 1e1d 1e1f 1e21",
  "1e23 1e25 1e27 1e29 1e2b 1e2d 1e2f 1e31 1e33 1e35 1e37 1e39 1e3b 1e3d 1e3f 1e41 1e43 1e45",
  "1e47 1e49 1e4b 1e4d 1e4f 1e51 1e53 1e55 1e57 1e59 1e5b 1e5d 1e5f 1e61 1e63 1e65 1e67 1e69",
  "1e6b 1e6d 1e6f 1e71 1e73 1e75 1e77 1e79 1e7b 1e7d 1e7f 1e81 1e83 1e85 1e87 1e89 1e8b 1e8d",
  "1e8f 1e91 1e93 1e95+8 1e9f 1ea1 1ea3 1ea5 1ea7 1ea9 1eab 1ead 1eaf 1eb1 1eb3 1eb5 1eb7 1eb9",
  "1ebb 1ebd 1ebf 1ec1 1ec3 1ec5 1ec7 1ec9 1ecb 1ecd 1ecf 1ed1 1ed3 1ed5 1ed7 1ed9 1edb 1edd",
  "1edf 1ee1 1ee3 1ee5 1ee7 1ee9 1eeb 1eed 1eef 1ef1 1ef3 1ef5 1ef7 1ef9 1efb 1efd 1eff+8",
  "1f10+5 1f20+7 1f30+7 1f40+5 1f50+7 1f60+7 1f70+d 1f80+7 1f90+7 1fa0+7 1fb0+4 1fb6+1 1fbe",
  "1fc2+2 1fc6+1 1fd0+3 1fd6+1 1fe0+7 1ff2+2 1ff6+1 210a 210e+1 2113 212f 2134 2139 213c+1",
  "2146+3 214e 2184 2c30+2f 2c61 2c65+1 2c68 2c6a 2c6c 2c71 2c73+1 2c76+5 2c81 2c83 2c85 2c87",
  "2c89 2c8b 2c8d 2c8f 2c91 2c93 2c95 2c97 2c99 2c9b 2c9d 2c9f 2ca1 2ca3 2ca5 2ca7 2ca9 2cab",
  "2cad 2caf 2cb1 2cb3 2cb5 2cb7 2cb9 2cbb 2cbd 2cbf 2cc1 2cc3 2cc5 2cc7 2cc9 2ccb 2ccd 2ccf",
  "2cd1 2cd3 2cd5 2cd7 2cd9 2cdb 2cdd 2cdf 2ce1 2ce3+1 2cec 2cee 2cf3 2d00+25 2d27 2d2d a641",
  "a643 a645 a647 a649 a64b a64d a64f a651 a653 a655 a657 a659 a65b a65d a65f a661 a663 a665",
  "a667 a669 a66b a66d a681 a683 a685 a687 a689 a68b a68d a68f a691 a693 a695 a697 a699 a69b",
  "a723 a725 a727 a729 a72b a72d a72f+2 a733 a735 a737 a739 a73b a73d a73f a741 a743 a745 a747",
  "a749 a74b a74d a74f a751 a753 a755 a757 a759 a75b a75d a75f a761 a763 a765 a767 a769 a76b",
  "a76d a76f a771+7 a77a a77c a77f a781 a783 a785 a787 a78c a78e a791 a793+2 a797 a799 a79b",
  "a79d a79f a7a1 a7a3 a7a5 a7a7 a7a9 a7af a7b5 a7b7 a7b9 a7bb a7bd a7bf a7c1 a7c3 a7c8 a7ca",
  "a7cd a7cf a7d1 a7d3 a7d5 a7d7 a7d9 a7db a7f6 a7fa ab30+2a ab60+8 ab70+4f fb00+6 fb13+4",
  "ff41+19 10428+27 104d8+23 10597+a 105a3+e 105b3+6 105bb+1 10cc0+32 10d70+15 118c0+1f",
  "16e60+1f 16ebb+18 1d41a+19 1d44e+6 1d456+11 1d482+19 1d4b6+3 1d4bb 1d4bd+6 1d4c5+a 1d4ea+19",
  "1d51e+19 1d552+19 1d586+19 1d5ba+19 1d5ee+19 1d622+19 1d656+19 1d68a+1b 1d6c2+18 1d6dc+5",
  "1d6fc+18 1d716+5 1d736+18 1d750+5 1d770+18 1d78a+5 1d7aa+18 1d7c4+5 1d7cb 1df00+9 1df0b+13",
  "1df25+5 1e922+21"]

def titlecaseLetter : CharSet := .ofTable ["1c5 1c8 1cb 1f2 1f88+7 1f98+7 1fa8+7 1fbc 1fcc 1ffc"]

def modifierLetter : CharSet := .ofTable [
  "2b0+11 2c6+b 2e0+4 2ec 2ee 374 37a 559 640 6e5+1 7f4+1 7fa 81a 824 828 8c9 971 e46 ec6 10fc",
  "17d7 1843 1aa7 1c78+5 1d2c+3e 1d78 1d9b+24 2071 207f 2090+c 2c7c+1 2d6f 2e2f 3005 3031+4",
  "303b 309d+1 30fc+2 a015 a4f8+5 a60c a67f a69c+1 a717+8 a770 a788 a7f1+3 a7f8+1 a9cf a9e6",
  "aa70 aadd aaf3+1 ab5c+3 ab69 ff70 ff9e+1 10780+5 10787+29 107b2+8 10d4e 10d6f 10ec5 11dd9",
  "16b40+3 16d40+2 16d6b+1 16f93+c 16fe0+1 16fe3 16ff2+1 1aff0+3 1aff5+6 1affd+1 1e030+3d",
  "1e137+6 1e4eb 1e6ff 1e94b"]

def otherLetter : CharSet := .ofTable [
  "aa ba 1bb 1c0+3 294+1 5d0+1a 5ef+3 620+1f 641+9 66e+1 671+62 6d5 6ee+1 6fa+2 6ff 710 712+1d",
  "74d+58 7b1 7ca+20 800+15 840+18 860+a 870+17 889+6 8a0+28 904+35 93d 950 958+9 972+e 985+7",
  "98f+1 993+15 9aa+6 9b2 9b6+3 9bd 9ce 9dc+1 9df+2 9f0+1 9fc a05+5 a0f+1 a13+15 a2a+6 a32+1",
  "a35+1 a38+1 a59+3 a5e a72+2 a85+8 a8f+2 a93+15 aaa+6 ab2+1 ab5+4 abd ad0 ae0+1 af9 b05+7",
  "b0f+1 b13+15 b2a+6 b32+1 b35+4 b3d b5c+1 b5f+2 b71 b83 b85+5 b8e+2 b92+3 b99+1 b9c b9e+1",
  "ba3+1 ba8+2 bae+b bd0 c05+7 c0e+2 c12+16 c2a+f c3d c58+2 c5c+1 c60+1 c80 c85+7 c8e+2 c92+16",
  "caa+9 cb5+4 cbd cdc+2 ce0+1 cf1+1 d04+8 d0e+2 d12+28 d3d d4e d54+2 d5f+2 d7a+5 d85+11 d9a+17",
  "db3+8 dbd dc0+6 e01+2f e32+1 e40+5 e81+1 e84 e86+4 e8c+17 ea5 ea7+9 eb2+1 ebd ec0+4 edc+3",
  "f00 f40+7 f49+23 f88+4 1000+2a 103f 1050+5 105a+3 1061 1065+1 106e+2 1075+c 108e 1100+148",
  "124a+3 1250+6 1258 125a+3 1260+28 128a+3 1290+20 12b2+3 12b8+6 12c0 12c2+3 12c8+e 12d8+38",
  "1312+3 1318+42 1380+f 1401+26b 166f+10 1681+19 16a0+4a 16f1+7 1700+11 171f+12 1740+11 1760+c",
  "176e+2 1780+33 17dc 1820+22 1844+34 1880+4 1887+21 18aa 18b0+45 1900+1e 1950+1d 1970+4",
  "1980+2b 19b0+19 1a00+16 1a20+34 1b05+2e 1b45+7 1b83+1d 1bae+1 1bba+2b 1c00+23 1c4d+2 1c5a+1d",
  "1ce9+3 1cee+5 1cf5+1 1cfa 2135+3 2d30+37 2d80+16 2da0+6 2da8+6 2db0+6 2db8+6 2dc0+6 2dc8+6",
  "2dd0+6 2dd8+6 3006 303c 3041+55 309f 30a1+59 30ff 3105+2a 3131+5d 31a0+1f 31f0+f 3400+19bf",
  "4e00+5214 a016+476 a4d0+27 a500+10b a610+f a62a+1 a66e a6a0+45 a78f a7f7 a7fb+6 a803+2",
  "a807+3 a80c+16 a840+33 a882+31 a8f2+5 a8fb a8fd+1 a90a+1b a930+16 a960+1c a984+2e a9e0+4",
  "a9e7+8 a9fa+4 aa00+28 aa40+2 aa44+7 aa60+f aa71+5 aa7a aa7e+31 aab1 aab5+1 aab9+4 aac0 aac2",
  "aadb+1 aae0+a aaf2 ab01+5 ab09+5 ab11+5 ab20+6 ab28+6 abc0+22 ac00+2ba3 d7b0+16 d7cb+30",
  "f900+16d fa70+69 fb1d fb1f+9 fb2a+c fb38+4 fb3e fb40+1 fb43+1 fb46+6b fbd3+16a fd50+3f",
  "fd92+35 fdf0+b fe70+4 fe76+86 ff66+9 ff71+2c ffa0+1e ffc2+5 ffca+5 ffd2+5 ffda+2 10000+b",
  "1000d+19 10028+12 1003c+1 1003f+e 10050+d 10080+7a 10280+1c 102a0+30 10300+1f 1032d+13",
  "10342+7 10350+25 10380+1d 103a0+23 103c8+7 10450+4d 10500+27 10530+33 105c0+33 10600+136",
  "10740+15 10760+7 10800+5 10808 1080a+2b 10837+1 1083c 1083f+16 10860+16 10880+1e 108e0+12",
  "108f4+1 10900+15 10920+19 10940+19 10980+37 109be+1 10a00 10a10+3 10a15+2 10a19+1c 10a60+1c",
  "10a80+1c 10ac0+7 10ac9+1b 10b00+35 10b40+15 10b60+12 10b80+11 10c00+48 10d00+23 10d4a+3",
  "10d4f 10e80+29 10eb0+1 10ec2+2 10ec6+1 10f00+1c 10f27 10f30+15 10f70+11 10fb0+14 10fe0+16",
  "11003+34 11071+1 11075 11083+2c 110d0+18 11103+23 11144 11147 11150+22 11176 11183+2f",
  "111c1+3 111da 111dc 11200+11 11213+18 1123f+1 11280+6 11288 1128a+3 1128f+e 1129f+9 112b0+2e",
  "11305+7 1130f+1 11313+15 1132a+6 11332+1 11335+4 1133d 11350 1135d+4 11380+9 1138b 1138e",
  "11390+25 113b7 113d1 113d3 11400+34 11447+3 1145f+2 11480+2f 114c4+1 114c7 11580+2e 115d8+3",
  "11600+2f 11644 11680+2a 116b8 11700+1a 11740+6 11800+2b 118ff+7 11909 1190c+7 11915+1",
  "11918+17 1193f 11941 119a0+7 119aa+26 119e1 119e3 11a00 11a0b+27 11a3a 11a50 11a5c+2d 11a9d",
  "11ab0+48 11bc0+20 11c00+8 11c0a+24 11c40 11c72+1d 11d00+6 11d08+1 11d0b+25 11d46 11d60+5",
  "11d67+1 11d6a+1f 11d98 11db0+28 11dda+1 11ee0+12 11f02 11f04+c 11f12+21 11fb0 12000+399",
  "12480+c3 12f90+60 13000+42f 13441+5 13460+f9a 14400+246 16100+1d 16800+238 16a40+1e 16a70+4e",
  "16ad0+1d 16b00+2f 16b63+14 16b7d+12 16d43+27 16f00+4a 16f50 17000+1cd5 18cff+1f 18d80+72",
  "1b000+122 1b132 1b150+2 1b155 1b164+3 1b170+18b 1bc00+6a 1bc70+c 1bc80+8 1bc90+9 1df0a",
  "1e100+2c 1e14e 1e290+1d 1e2c0+2b 1e4d0+1a 1e5d0+1d 1e5f0 1e6c0+1e 1e6e0+2 1e6e4+1 1e6e7+6",
  "1e6f0+4 1e6fe 1e7e0+6 1e7e8+3 1e7ed+1 1e7f0+e 1e800+c4 1ee00+3 1ee05+1a 1ee21+1 1ee24 1ee27",
  "1ee29+9 1ee34+3 1ee39 1ee3b 1ee42 1ee47 1ee49 1ee4b 1ee4d+2 1ee51+1 1ee54 1ee57 1ee59 1ee5b",
  "1ee5d 1ee5f 1ee61+1 1ee64 1ee67+3 1ee6c+6 1ee74+3 1ee79+3 1ee7e 1ee80+9 1ee8b+10 1eea1+2",
  "1eea5+4 1eeab+10 20000+a6df 2a700+111d 2b820+168d 2ceb0+1d30 2ebf0+26d 2f800+21d 30000+134a",
  "31350+2129"]

def nonspacingMark : CharSet := .ofTable [
  "300+6f 483+4 591+2c 5bf 5c1+1 5c4+1 5c7 610+a 64b+14 670 6d6+6 6df+5 6e7+1 6ea+3 711 730+1a",
  "7a6+a 7eb+8 7fd 816+3 81b+8 825+2 829+4 859+2 897+8 8ca+17 8e3+1f 93a 93c 941+7 94d 951+6",
  "962+1 981 9bc 9c1+3 9cd 9e2+1 9fe a01+1 a3c a41+1 a47+1 a4b+2 a51 a70+1 a75 a81+1 abc ac1+4",
  "ac7+1 acd ae2+1 afa+5 b01 b3c b3f b41+3 b4d b55+1 b62+1 b82 bc0 bcd c00 c04 c3c c3e+2 c46+2",
  "c4a+3 c55+1 c62+1 c81 cbc cbf cc6 ccc+1 ce2+1 d00+1 d3b+1 d41+3 d4d d62+1 d81 dca dd2+2 dd6",
  "e31 e34+6 e47+7 eb1 eb4+8 ec8+6 f18+1 f35 f37 f39 f71+d f80+4 f86+1 f8d+a f99+23 fc6 102d+3",
  "1032+5 1039+1 103d+1 1058+1 105e+2 1071+3 1082 1085+1 108d 109d 135d+2 1712+2 1732+1 1752+1",
  "1772+1 17b4+1 17b7+6 17c6 17c9+a 17dd 180b+2 180f 1885+1 18a9 1920+2 1927+1 1932 1939+2",
  "1a17+1 1a1b 1a56 1a58+6 1a60 1a62 1a65+7 1a73+9 1a7f 1ab0+d 1abf+1e 1ae0+b 1b00+3 1b34",
  "1b36+4 1b3c 1b42 1b6b+8 1b80+1 1ba2+3 1ba8+1 1bab+2 1be6 1be8+1 1bed 1bef+2 1c2c+7 1c36+1",
  "1cd0+2 1cd4+c 1ce2+6 1ced 1cf4 1cf8+1 1dc0+3f 20d0+c 20e1 20e5+b 2cef+2 2d7f 2de0+1f 302a+3",
  "3099+1 a66f a674+9 a69e+1 a6f0+1 a802 a806 a80b a825+1 a82c a8c4+1 a8e0+11 a8ff a926+7",
  "a947+a a980+2 a9b3 a9b6+3 a9bc+1 a9e5 aa29+5 aa31+1 aa35+1 aa43 aa4c aa7c aab0 aab2+2 aab7+1",
  "aabe+1 aac1 aaec+1 aaf6 abe5 abe8 abed fb1e fe00+f fe20+f 101fd 102e0 10376+4 10a01+2",
  "10a05+1 10a0c+3 10a38+2 10a3f 10ae5+1 10d24+3 10d69+4 10eab+1 10efa+5 10f46+a 10f82+3 11001",
  "11038+e 11070 11073+1 1107f+2 110b3+3 110b9+1 110c2 11100+2 11127+4 1112d+7 11173 11180+1",
  "111b6+8 111c9+3 111cf 1122f+2 11234 11236+1 1123e 11241 112df 112e3+7 11300+1 1133b+1 11340",
  "11366+6 11370+4 113bb+5 113ce 113d0 113d2 113e1+1 11438+7 11442+2 11446 1145e 114b3+5 114ba",
  "114bf+1 114c2+1 115b2+3 115bc+1 115bf+1 115dc+1 11633+7 1163d 1163f+1 116ab 116ad 116b0+5",
  "116b7 1171d 1171f 11722+3 11727+4 1182f+8 11839+1 1193b+1 1193e 11943 119d4+3 119da+1 119e0",
  "11a01+9 11a33+5 11a3b+3 11a47 11a51+5 11a59+2 11a8a+c 11a98+1 11b60 11b62+2 11b66 11c30+6",
  "11c38+5 11c3f 11c92+15 11caa+6 11cb2+1 11cb5+1 11d31+5 11d3a 11d3c+1 11d3f+6 11d47 11d90+1",
  "11d95 11d97 11ef3+1 11f00+1 11f36+4 11f40 11f42 11f5a 13440 13447+e 1611e+b 1612d+2 16af0+4",
  "16b30+6 16f4f 16f8f+3 16fe4 1bc9d+1 1cf00+2d 1cf30+16 1d167+2 1d17b+7 1d185+6 1d1aa+3",
  "1d242+2 1da00+36 1da3b+31 1da75 1da84 1da9b+4 1daa1+e 1e000+6 1e008+10 1e01b+6 1e023+1",
  "1e026+4 1e08f 1e130+6 1e2ae 1e2ec+3 1e4ec+3 1e5ee+1 1e6e3 1e6e6 1e6ee+1 1e6f5 1e8d0+6",
  "1e944+6 e0100+ef"]

def spacingMark : CharSet := .ofTable [
  "903 93b 93e+2 949+3 94e+1 982+1 9be+2 9c7+1 9cb+1 9d7 a03 a3e+2 a83 abe+2 ac9 acb+1 b02+1",
  "b3e b40 b47+1 b4b+1 b57 bbe+1 bc1+1 bc6+2 bca+2 bd7 c01+2 c41+3 c82+1 cbe cc0+4 cc7+1 cca+1",
  "cd5+1 cf3 d02+1 d3e+2 d46+2 d4a+2 d57 d82+1 dcf+2 dd8+7 df2+1 f3e+1 f7f 102b+1 1031 1038",
  "103b+1 1056+1 1062+2 1067+6 1083+1 1087+5 108f 109a+2 1715 1734 17b6 17be+7 17c7+1 1923+3",
  "1929+2 1930+1 1933+5 1a19+1 1a55 1a57 1a61 1a63+1 1a6d+5 1b04 1b35 1b3b 1b3d+4 1b43+1 1b82",
  "1ba1 1ba6+1 1baa 1be7 1bea+2 1bee 1bf2+1 1c24+7 1c34+1 1ce1 1cf7 302e+1 a823+1 a827 a880+1",
  "a8b4+f a952+1 a983 a9b4+1 a9ba+1 a9be+2 aa2f+1 aa33+1 aa4d aa7b aa7d aaeb aaee+1 aaf5 abe3+1",
  "abe6+1 abe9+1 abec 11000 11002 11082 110b0+2 110b7+1 1112c 11145+1 11182 111b3+2 111bf+1",
  "111ce 1122c+2 11232+1 11235 112e0+2 11302+1 1133e+1 11341+3 11347+1 1134b+2 11357 11362+1",
  "113b8+2 113c2 113c5 113c7+3 113cc+1 113cf 11435+2 11440+1 11445 114b0+2 114b9 114bb+3 114c1",
  "115af+2 115b8+3 115be 11630+2 1163b+1 1163e 116ac 116ae+1 116b6 1171e 11720+1 11726 1182c+2",
  "11838 11930+5 11937+1 1193d 11940 11942 119d1+2 119dc+3 119e4 11a39 11a57+1 11a97 11b61",
  "11b65 11b67 11c2f 11c3e 11ca9 11cb1 11cb4 11d8a+4 11d93+1 11d96 11ef5+1 11f03 11f34+1",
  "11f3e+1 11f41 1612a+2 16f51+36 16ff0+1 1d165+1 1d16d+5"]

def enclosingMark : CharSet := .ofTable ["488+1 1abe 20dd+3 20e2+2 a670+2"]

def decimalNumber : CharSet := .ofTable [
  "30+9 660+9 6f0+9 7c0+9 966+9 9e6+9 a66+9 ae6+9 b66+9 be6+9 c66+9 ce6+9 d66+9 de6+9 e50+9",
  "ed0+9 f20+9 1040+9 1090+9 17e0+9 1810+9 1946+9 19d0+9 1a80+9 1a90+9 1b50+9 1bb0+9 1c40+9",
  "1c50+9 a620+9 a8d0+9 a900+9 a9d0+9 a9f0+9 aa50+9 abf0+9 ff10+9 104a0+9 10d30+9 10d40+9",
  "11066+9 110f0+9 11136+9 111d0+9 112f0+9 11450+9 114d0+9 11650+9 116c0+9 116d0+13 11730+9",
  "118e0+9 11950+9 11bf0+9 11c50+9 11d50+9 11da0+9 11de0+9 11f50+9 16130+9 16a60+9 16ac0+9",
  "16b50+9 16d70+9 1ccf0+9 1d7ce+31 1e140+9 1e2f0+9 1e4f0+9 1e5f1+9 1e950+9 1fbf0+9"]

def letterNumber : CharSet := .ofTable [
  "16ee+2 2160+22 2185+3 3007 3021+8 3038+2 a6e6+9 10140+34 10341 1034a 103d1+4 12400+6e",
  "16ff4+2"]

def otherNumber : CharSet := .ofTable [
  "b2+1 b9 bc+2 9f4+5 b72+5 bf0+2 c78+6 d58+6 d70+8 f2a+9 1369+13 17f0+9 19da 2070 2074+5",
  "2080+9 2150+f 2189 2460+3b 24ea+15 2776+1d 2cfd 3192+3 3220+9 3248+7 3251+e 3280+9 32b1+e",
  "a830+5 10107+2c 10175+3 1018a+1 102e1+1a 10320+3 10858+7 10879+6 108a7+8 108fb+4 10916+5",
  "109bc+1 109c0+f 109d2+2d 10a40+8 10a7d+1 10a9d+2 10aeb+4 10b58+7 10b78+7 10ba9+6 10cfa+5",
  "10e60+1e 10f1d+9 10f51+3 10fc5+6 11052+13 111e1+13 1173a+1 118ea+8 11c5a+12 11fc0+14 16b5b+6",
  "16e80+16 1d2c0+13 1d2e0+13 1d360+18 1e8c7+8 1ec71+3a 1ecad+2 1ecb1+3 1ed01+2c 1ed2f+e",
  "1f100+c"]

def connectorPunctuation : CharSet := .ofTable ["5f 203f+1 2054 fe33+1 fe4d+2 ff3f"]

def dashPunctuation : CharSet := .ofTable [
  "2d 58a 5be 1400 1806 2010+5 2e17 2e1a 2e3a+1 2e40 2e5d 301c 3030 30a0 fe31+1 fe58 fe63 ff0d",
  "10d6e 10ead"]

def openPunctuation : CharSet := .ofTable [
  "28 5b 7b f3a f3c 169b 201a 201e 2045 207d 208d 2308 230a 2329 2768 276a 276c 276e 2770 2772",
  "2774 27c5 27e6 27e8 27ea 27ec 27ee 2983 2985 2987 2989 298b 298d 298f 2991 2993 2995 2997",
  "29d8 29da 29fc 2e22 2e24 2e26 2e28 2e42 2e55 2e57 2e59 2e5b 3008 300a 300c 300e 3010 3014",
  "3016 3018 301a 301d fd3f fe17 fe35 fe37 fe39 fe3b fe3d fe3f fe41 fe43 fe47 fe59 fe5b fe5d",
  "ff08 ff3b ff5b ff5f ff62"]

def closePunctuation : CharSet := .ofTable [
  "29 5d 7d f3b f3d 169c 2046 207e 208e 2309 230b 232a 2769 276b 276d 276f 2771 2773 2775 27c6",
  "27e7 27e9 27eb 27ed 27ef 2984 2986 2988 298a 298c 298e 2990 2992 2994 2996 2998 29d9 29db",
  "29fd 2e23 2e25 2e27 2e29 2e56 2e58 2e5a 2e5c 3009 300b 300d 300f 3011 3015 3017 3019 301b",
  "301e+1 fd3e fe18 fe36 fe38 fe3a fe3c fe3e fe40 fe42 fe44 fe48 fe5a fe5c fe5e ff09 ff3d ff5d",
  "ff60 ff63"]

def initialPunctuation : CharSet := .ofTable ["ab 2018 201b+1 201f 2039 2e02 2e04 2e09 2e0c 2e1c 2e20"]

def finalPunctuation : CharSet := .ofTable ["bb 2019 201d 203a 2e03 2e05 2e0a 2e0d 2e1d 2e21"]

def otherPunctuation : CharSet := .ofTable [
  "21+2 25+2 2a 2c 2e+1 3a+1 3f+1 5c a1 a7 b6+1 bf 37e 387 55a+5 589 5c0 5c3 5c6 5f3+1 609+1",
  "60c+1 61b 61d+2 66a+3 6d4 700+d 7f7+2 830+e 85e 964+1 970 9fd a76 af0 c77 c84 df4 e4f e5a+1",
  "f04+e f14 f85 fd0+4 fd9+1 104a+5 10fb 1360+8 166e 16eb+2 1735+1 17d4+2 17d8+2 1800+5 1807+3",
  "1944+1 1a1e+1 1aa0+6 1aa8+5 1b4e+1 1b5a+6 1b7d+2 1bfc+3 1c3b+4 1c7e+1 1cc0+7 1cd3 2016+1",
  "2020+7 2030+8 203b+3 2041+2 2047+a 2053 2055+9 2cf9+3 2cfe+1 2d70 2e00+1 2e06+2 2e0b 2e0e+8",
  "2e18+1 2e1b 2e1e+1 2e2a+4 2e30+9 2e3c+3 2e41 2e43+c 2e52+2 3001+2 303d 30fb a4fe+1 a60d+2",
  "a673 a67e a6f2+5 a874+3 a8ce+1 a8f8+2 a8fc a92e+1 a95f a9c1+c a9de+1 aa5c+3 aade+1 aaf0+1",
  "abeb fe10+6 fe19 fe30 fe45+1 fe49+3 fe50+2 fe54+3 fe5f+2 fe68 fe6a+1 ff01+2 ff05+2 ff0a ff0c",
  "ff0e+1 ff1a+1 ff1f+1 ff3c ff61 ff64+1 10100+2 1039f 103d0 1056f 10857 1091f 1093f 10a50+8",
  "10a7f 10af0+6 10b39+6 10b99+3 10ed0 10f55+4 10f86+3 11047+6 110bb+1 110be+3 11140+3 11174+1",
  "111c5+3 111cd 111db 111dd+2 11238+5 112a9 113d4+1 113d7+1 1144b+4 1145a+1 1145d 114c6",
  "115c1+16 11641+2 11660+c 116b9 1173c+2 1183b 11944+2 119e2 11a3f+7 11a9a+2 11a9e+4 11b00+9",
  "11be1 11c41+4 11c70+1 11ef7+1 11f43+c 11fff 12470+4 12ff1+1 16a6e+1 16af5 16b37+4 16b44",
  "16d6d+2 16e97+3 16fe2 1bc9f 1da87+4 1e5ff 1e95e+1"]

def mathSymbol : CharSet := .ofTable [
  "2b 3c+2 7c 7e ac b1 d7 f7 3f6 606+2 2044 2052 207a+2 208a+2 2118 2140+4 214b 2190+4 219a+1",
  "21a0 21a3 21a6 21ae 21ce+1 21d2 21d4 21f4+10b 2320+1 237c 239b+18 23dc+5 25b7 25c1 25f8+7",
  "266f 27c0+4 27c7+1e 27f0+f 2900+82 2999+3e 29dc+1f 29fe+101 2b30+14 2b47+5 fb29 fe62 fe64+2",
  "ff0b ff1c+2 ff5c ff5e ffe2 ffe9+3 10d8e+1 1cef0 1d6c1 1d6db 1d6fb 1d715 1d735 1d74f 1d76f",
  "1d789 1d7a9 1d7c3 1eef0+1 1f8d0+8"]

def currencySymbol : CharSet := .ofTable [
  "24 a2+3 58f 60b 7fe+1 9f2+1 9fb af1 bf9 e3f 17db 20a0+21 a838 fdfc fe69 ff04 ffe0+1 ffe5+1",
  "11fdd+3 1e2ff 1ecb0"]

def modifierSymbol : CharSet := .ofTable [
  "5e 60 a8 af b4 b8 2c2+3 2d2+d 2e5+6 2ed 2ef+10 375 384+1 888 1fbd 1fbf+2 1fcd+2 1fdd+2",
  "1fed+2 1ffd+1 309b+1 a700+16 a720+1 a789+1 ab5b ab6a+1 fbb2+10 ff3e ff40 ffe3 1f3fb+4"]

def otherSymbol : CharSet := .ofTable [
  "a6 a9 ae b0 482 58d+1 60e+1 6de 6e9 6fd+1 7f6 9fa b70 bf3+5 bfa c7f d4f d79 f01+2 f13 f15+2",
  "f1a+5 f34 f36 f38 fbe+7 fc7+5 fce+1 fd5+3 109e+1 1390+9 166d 1940 19de+21 1b61+9 1b74+8",
  "2100+1 2103+3 2108+1 2114 2116+1 211e+5 2125 2127 2129 212e 213a+1 214a 214c+1 214f 218a+1",
  "2195+4 219c+3 21a1+1 21a4+1 21a7+6 21af+1e 21d0+1 21d3 21d5+1e 2300+7 230c+13 2322+6 232b+50",
  "237d+1d 23b4+27 23e2+47 2440+a 249c+4d 2500+b6 25b8+8 25c2+35 2600+6e 2670+f7 2794+2b",
  "2800+ff 2b00+2f 2b45+1 2b4d+26 2b76+89 2ce5+5 2e50+1 2e80+19 2e9b+58 2f00+d5 2ff0+f 3004",
  "3012+1 3020 3036+1 303e+1 3190+1 3196+9 31c0+25 31ef 3200+1e 322a+1d 3250 3260+1f 328a+26",
  "32c0+13f 4dc0+3f a490+36 a828+3 a836+1 a839 aa77+2 fbc3+f fd40+f fd90+1 fdc8+7 fdfd+2 ffe4",
  "ffe8 ffed+1 fffc+1 10137+8 10179+10 1018c+2 10190+c 101a0 101d0+2c 10877+1 10ac8 10ed1+7",
  "1173f 11fd5+7 11fe1+10 16b3c+3 16b45 1bc9c 1cc00+ef 1ccfa+2 1cd00+1b3 1ceba+16 1cee0+f",
  "1cf50+73 1d000+f5 1d100+26 1d129+3b 1d16a+2 1d183+1 1d18c+1d 1d1ae+3c 1d200+41 1d245",
  "1d300+56 1d800+1ff 1da37+3 1da6d+7 1da76+d 1da85+1 1e14f 1ecac 1ed2e 1f000+2b 1f030+63",
  "1f0a0+e 1f0b1+e 1f0c1+e 1f0d1+24 1f10d+a0 1f1e6+1c 1f210+2b 1f240+8 1f250+1 1f260+5 1f300+fa",
  "1f400+2d8 1f6dc+10 1f6f0+c 1f700+d9 1f7e0+b 1f7f0 1f800+b 1f810+37 1f850+9 1f860+27 1f890+1d",
  "1f8b0+b 1f8c0+1 1f900+157 1fa60+d 1fa70+c 1fa80+a 1fa8e+38 1fac8 1facd+f 1fadf+b 1faef+9",
  "1fb00+92 1fb94+5b 1fbfa"]

def spaceSeparator : CharSet := .ofTable ["20 a0 1680 2000+a 202f 205f 3000"]

def lineSeparator : CharSet := .ofTable ["2028"]

def paragraphSeparator : CharSet := .ofTable ["2029"]

def control : CharSet := .ofTable ["0+1f 7f+20"]

def format : CharSet := .ofTable [
  "ad 600+5 61c 6dd 70f 890+1 8e2 180e 200b+4 202a+4 2060+4 2066+9 feff fff9+2 110bd 110cd",
  "13430+f 1bca0+3 1d173+7 e0001 e0020+5f"]

def privateUse : CharSet := .ofTable ["e000+18ff f0000+fffd 100000+fffd"]

def unassigned : CharSet := .ofTable [
  "378+1 380+3 38b 38d 3a2 530 557+1 58b+1 590 5c8+7 5eb+3 5f5+a 70e 74b+1 7b2+d 7fb+1 82e+1",
  "83f 85c+1 85f 86b+4 892+4 984 98d+1 991+1 9a9 9b1 9b3+2 9ba+1 9c5+1 9c9+1 9cf+7 9d8+3 9de",
  "9e4+1 9ff+1 a04 a0b+3 a11+1 a29 a31 a34 a37 a3a+1 a3d a43+3 a49+1 a4e+2 a52+6 a5d a5f+6",
  "a77+9 a84 a8e a92 aa9 ab1 ab4 aba+1 ac6 aca ace+1 ad1+e ae4+1 af2+6 b00 b04 b0d+1 b11+1 b29",
  "b31 b34 b3a+1 b45+1 b49+1 b4e+6 b58+3 b5e b64+1 b78+9 b84 b8b+2 b91 b96+2 b9b b9d ba0+2",
  "ba5+2 bab+2 bba+3 bc3+2 bc9 bce+1 bd1+5 bd8+d bfb+4 c0d c11 c29 c3a+1 c45 c49 c4e+6 c57 c5b",
  "c5e+1 c64+1 c70+6 c8d c91 ca9 cb4 cba+1 cc5 cc9 cce+6 cd7+4 cdf ce4+1 cf0 cf4+b d0d d11 d45",
  "d49 d50+3 d64+1 d80 d84 d97+2 db2 dbc dbe+1 dc7+2 dcb+3 dd5 dd7 de0+5 df0+1 df5+b e3b+3",
  "e5c+24 e83 e85 e8b ea4 ea6 ebe+1 ec5 ec7 ecf eda+1 ee0+1f f48 f6d+3 f98 fbd fcd fdb+24 10c6",
  "10c8+4 10ce+1 1249 124e+1 1257 1259 125e+1 1289 128e+1 12b1 12b6+1 12bf 12c1 12c6+1 12d7",
  "1311 1316+1 135b+1 137d+2 139a+5 13f6+1 13fe+1 169d+2 16f9+6 1716+8 1737+8 1754+b 176d 1771",
  "1774+b 17de+1 17ea+5 17fa+5 181a+5 1879+6 18ab+4 18f6+9 191f 192c+3 193c+3 1941+2 196e+1",
  "1975+a 19ac+3 19ca+5 19db+2 1a1c+1 1a5f 1a7d+1 1a8a+5 1a9a+5 1aae+1 1ade+1 1aec+13 1b4d",
  "1bf4+7 1c38+2 1c4a+2 1c8b+4 1cbb+1 1cc8+7 1cfb+4 1f16+1 1f1e+1 1f46+1 1f4e+1 1f58 1f5a 1f5c",
  "1f5e 1f7e+1 1fb5 1fc5 1fd4+1 1fdc 1ff0+1 1ff5 1fff 2065 2072+1 208f 209d+2 20c2+d 20f1+e",
  "218c+3 242a+15 244b+14 2b74+1 2cf4+4 2d26 2d28+4 2d2e+1 2d68+6 2d71+d 2d97+8 2da7 2daf 2db7",
  "2dbf 2dc7 2dcf 2dd7 2ddf 2e5e+21 2e9a 2ef4+b 2fd6+19 3040 3097+1 3100+4 3130 318f 31e6+8",
  "321f a48d+2 a4c7+8 a62c+13 a6f8+7 a7dd+13 a82d+2 a83a+5 a878+7 a8c6+7 a8da+5 a954+a a97d+2",
  "a9ce a9da+3 a9ff aa37+8 aa4e+1 aa5a+1 aac3+17 aaf7+9 ab07+1 ab0f+1 ab17+8 ab27 ab2f ab6c+3",
  "abee+1 abfa+5 d7a4+b d7c7+3 d7fc+3 fa6e+1 fada+25 fb07+b fb18+4 fb37 fb3d fb3f fb42 fb45",
  "fdd0+1f fe1a+5 fe53 fe67 fe6c+3 fe75 fefd+1 ff00 ffbf+2 ffc8+1 ffd0+1 ffd8+1 ffdd+2 ffe7",
  "ffef+9 fffe+1 1000c 10027 1003b 1003e 1004e+1 1005e+21 100fb+4 10103+3 10134+2 1018f 1019d+2",
  "101a1+2e 101fe+81 1029d+2 102d1+e 102fc+3 10324+8 1034b+4 1037b+4 1039e 103c4+3 103d6+29",
  "1049e+1 104aa+5 104d4+3 104fc+3 10528+7 10564+a 1057b 1058b 10593 10596 105a2 105b2 105ba",
  "105bd+2 105f4+b 10737+8 10756+9 10768+17 10786 107b1 107bb+44 10806+1 10809 10836 10839+2",
  "1083d+1 10856 1089f+7 108b0+2f 108f3 108f6+4 1091c+2 1093a+4 1095a+25 109b8+3 109d0+1 10a04",
  "10a07+4 10a14 10a18 10a36+1 10a3b+3 10a49+6 10a59+6 10aa0+1f 10ae7+3 10af7+8 10b36+2 10b56+1",
  "10b73+4 10b92+6 10b9d+b 10bb0+4f 10c49+36 10cb3+c 10cf3+6 10d28+7 10d3a+5 10d66+2 10d86+7",
  "10d90+cf 10e7f 10eaa 10eae+1 10eb2+f 10ec8+7 10ed9+20 10f28+7 10f5a+15 10f8a+25 10fcc+13",
  "10ff7+8 1104e+3 11076+8 110c3+9 110ce+1 110e9+6 110fa+5 11135 11148+7 11177+8 111e0 111f5+a",
  "11212 11242+3d 11287 11289 1128e 1129e 112aa+5 112eb+4 112fa+5 11304 1130d+1 11311+1 11329",
  "11331 11334 1133a 11345+1 11349+1 1134e+1 11351+5 11358+4 11364+1 1136d+2 11375+a 1138a",
  "1138c+1 1138f 113b6 113c1 113c3+1 113c6 113cb 113d6 113d9+7 113e3+1c 1145c 11462+1d 114c8+7",
  "114da+a5 115b6+1 115de+21 11645+a 1165a+5 1166d+12 116ba+5 116ca+5 116e4+1b 1171b+1 1172c+3",
  "11747+b8 1183c+63 118f3+b 11907+1 1190a+1 11914 11917 11936 11939+1 11947+8 1195a+45 119a8+1",
  "119d8+1 119e5+1a 11a48+7 11aa3+c 11af9+6 11b0a+55 11b68+57 11be2+d 11bfa+5 11c09 11c37",
  "11c46+9 11c6d+2 11c90+1 11ca8 11cb7+48 11d07 11d0a 11d37+2 11d3b 11d3e 11d48+7 11d5a+5 11d66",
  "11d69 11d8f 11d92 11d99+6 11daa+5 11ddc+3 11dea+f5 11ef9+6 11f11 11f3b+2 11f5b+54 11fb1+e",
  "11ff2+c 1239a+65 1246f 12475+a 12544+a4b 12ff3+c 13456+9 143fb+4 14647+1ab8 1613a+6c5",
  "16a39+6 16a5f 16a6a+3 16abf 16aca+5 16aee+1 16af6+9 16b46+9 16b5a 16b62 16b78+4 16b90+1af",
  "16d7a+c5 16e9b+4 16eb9+1 16ed4+2b 16f4b+3 16f88+6 16fa0+3f 16fe5+a 16ff7+8 18cd6+28 18d1f+60",
  "18df3+21fc 1aff4 1affc 1afff 1b123+e 1b133+1c 1b153+1 1b156+d 1b168+7 1b2fc+903 1bc6b+4",
  "1bc7d+2 1bc89+6 1bc9a+1 1bca4+f5b 1ccfd+2 1ceb4+5 1ced1+e 1cef1+e 1cf2e+1 1cf47+8 1cfc4+3b",
  "1d0f6+9 1d127+1 1d1eb+14 1d246+79 1d2d4+b 1d2f4+b 1d357+8 1d379+86 1d455 1d49d 1d4a0+1",
  "1d4a3+1 1d4a7+1 1d4ad 1d4ba 1d4bc 1d4c4 1d506 1d50b+1 1d515 1d51d 1d53a 1d53f 1d545 1d547+2",
  "1d551 1d6a6+1 1d7cc+1 1da8c+e 1daa0 1dab0+44f 1df1f+5 1df2b+d4 1e007 1e019+1 1e022 1e025",
  "1e02b+4 1e06e+20 1e090+6f 1e12d+2 1e13e+1 1e14a+3 1e150+13f 1e2af+10 1e2fa+4 1e300+1cf",
  "1e4fa+d5 1e5fb+3 1e600+bf 1e6df 1e6f6+7 1e700+df 1e7e7 1e7ec 1e7ef 1e7ff 1e8c5+1 1e8d7+28",
  "1e94c+3 1e95a+3 1e960+310 1ecb5+4b 1ed3e+c1 1ee04 1ee20 1ee23 1ee25+1 1ee28 1ee33 1ee38",
  "1ee3a 1ee3c+5 1ee43+3 1ee48 1ee4a 1ee4c 1ee50 1ee53 1ee55+1 1ee58 1ee5a 1ee5c 1ee5e 1ee60",
  "1ee63 1ee65+1 1ee6b 1ee73 1ee78 1ee7d 1ee7f 1ee8a 1ee9c+4 1eea4 1eeaa 1eebc+33 1eef2+10d",
  "1f02c+3 1f094+b 1f0af+1 1f0c0 1f0d0 1f0f6+9 1f1ae+37 1f203+c 1f23c+3 1f249+6 1f252+d",
  "1f266+99 1f6d9+2 1f6ed+2 1f6fd+2 1f7da+5 1f7ec+3 1f7f1+e 1f80c+3 1f848+7 1f85a+5 1f888+7",
  "1f8ae+1 1f8bc+3 1f8c2+d 1f8d9+26 1fa58+7 1fa6e+1 1fa7d+2 1fa8b+2 1fac7 1fac9+3 1fadd+1",
  "1faeb+3 1faf9+6 1fb93 1fbfb+404 2a6e0+1f 2b81e+1 2ceae+1 2ebe1+e 2ee5e+9a1 2fa1e+5e1 3134b+4",
  "3347a+acb86 e0002+1d e0080+7f e01f0+fe0f ffffe+1 10fffe+1"]

/-! ## The groups -/

/-- The union of several sets. -/
def CharSet.unions (sets : List CharSet) : CharSet := sets.foldl .union .empty

def letter : CharSet :=
  .unions [uppercaseLetter, lowercaseLetter, titlecaseLetter, modifierLetter, otherLetter]

def casedLetter : CharSet :=
  .unions [uppercaseLetter, lowercaseLetter, titlecaseLetter]

def mark : CharSet :=
  .unions [nonspacingMark, spacingMark, enclosingMark]

def number : CharSet :=
  .unions [decimalNumber, letterNumber, otherNumber]

def punctuation : CharSet :=
  .unions [connectorPunctuation, dashPunctuation, openPunctuation, closePunctuation,
    initialPunctuation, finalPunctuation, otherPunctuation]

def symbol : CharSet :=
  .unions [mathSymbol, currencySymbol, modifierSymbol, otherSymbol]

def separator : CharSet :=
  .unions [spaceSeparator, lineSeparator, paragraphSeparator]

def other : CharSet :=
  .unions [control, format, privateUse, unassigned]

/-- The categories and groups by their names, written without case and separators. -/
def generalCategories : List (List String × CharSet) := [
  (["l", "letter"], letter),
  (["lc", "casedletter"], casedLetter),
  (["m", "mark", "combiningmark"], mark),
  (["n", "number"], number),
  (["p", "punctuation", "punct"], punctuation),
  (["s", "symbol"], symbol),
  (["z", "separator"], separator),
  (["c", "other"], other),
  (["lu", "uppercaseletter"], uppercaseLetter),
  (["ll", "lowercaseletter"], lowercaseLetter),
  (["lt", "titlecaseletter"], titlecaseLetter),
  (["lm", "modifierletter"], modifierLetter),
  (["lo", "otherletter"], otherLetter),
  (["mn", "nonspacingmark"], nonspacingMark),
  (["mc", "spacingmark"], spacingMark),
  (["me", "enclosingmark"], enclosingMark),
  (["nd", "decimalnumber", "digit"], decimalNumber),
  (["nl", "letternumber"], letterNumber),
  (["no", "othernumber"], otherNumber),
  (["pc", "connectorpunctuation"], connectorPunctuation),
  (["pd", "dashpunctuation"], dashPunctuation),
  (["ps", "openpunctuation"], openPunctuation),
  (["pe", "closepunctuation"], closePunctuation),
  (["pi", "initialpunctuation"], initialPunctuation),
  (["pf", "finalpunctuation"], finalPunctuation),
  (["po", "otherpunctuation"], otherPunctuation),
  (["sm", "mathsymbol"], mathSymbol),
  (["sc", "currencysymbol"], currencySymbol),
  (["sk", "modifiersymbol"], modifierSymbol),
  (["so", "othersymbol"], otherSymbol),
  (["zs", "spaceseparator"], spaceSeparator),
  (["zl", "lineseparator"], lineSeparator),
  (["zp", "paragraphseparator"], paragraphSeparator),
  (["cc", "control", "cntrl"], control),
  (["cf", "format"], format),
  (["co", "privateuse"], privateUse),
  (["cn", "unassigned"], unassigned)]

end Polyglot.Unicode
