import Polyglot.Unicode.Script

/-!
# Script extensions

The characters that are used with each script, shared ones included. Scripts whose characters are
used with no other are not listed: for them `Script` has the set.
-/

namespace Polyglot.Unicode.ScriptExtension

def adlam : CharSet := .ofTable ["61f 640 204f 2e41 1e900+4b 1e950+9 1e95e+1"]

def arabic : CharSet := .ofTable [
  "600+4 606+d6 6de+21 750+2f 870+21 897+4a 8e3+1c 204f 2e41 fb50+27f fdf0+f fe70+4 fe76+86",
  "102e0+1b 10e60+1e 10ec2+5 10ed0+8 10efa+5 1ee00+3 1ee05+1a 1ee21+1 1ee24 1ee27 1ee29+9",
  "1ee34+3 1ee39 1ee3b 1ee42 1ee47 1ee49 1ee4b 1ee4d+2 1ee51+1 1ee54 1ee57 1ee59 1ee5b 1ee5d",
  "1ee5f 1ee61+1 1ee64 1ee67+3 1ee6c+6 1ee74+3 1ee79+3 1ee7e 1ee80+9 1ee8b+10 1eea1+2 1eea5+4",
  "1eeab+10 1eef0+1"]

def armenian : CharSet := .ofTable ["308 531+25 559+31 58d+2 fb13+4"]

def avestan : CharSet := .ofTable ["b7 2e30+1 10b00+35 10b39+6"]

def bengali : CharSet := .ofTable [
  "2bc 951+1 964+1 980+3 985+7 98f+1 993+15 9aa+6 9b2 9b6+3 9bc+8 9c7+1 9cb+3 9d7 9dc+1 9df+4",
  "9e6+18 1cd0 1cd2 1cd5+1 1cd8 1ce1 1cea 1ced 1cf2 1cf5+2 a8f1"]

def bopomofo : CharSet := .ofTable [
  "2c7 2c9+2 2d9 2ea+1 3001+2 3008+9 3013+c 302a+3 3030 3037 30fb 3105+2a 31a0+1f fe45+1 ff61+4"]

def buginese : CharSet := .ofTable ["1a00+1b 1a1e+1 a9cf"]

def buhid : CharSet := .ofTable ["1735+1 1740+13"]

def carian : CharSet := .ofTable ["b7 205a 205d 2e31 102a0+30"]

def caucasianAlbanian : CharSet := .ofTable ["304 331 35e 10530+33 1056f"]

def chakma : CharSet := .ofTable ["9e6+9 1040+9 11100+34 11136+11"]

def cherokee : CharSet := .ofTable ["300+2 304 30b+1 323+1 330+1 13a0+55 13f8+5 ab70+4f"]

def common : CharSet := .ofTable [
  "0+40 5b+5 7b+2e ab+b b8+1 bb+4 d7 f7 2b9+2 2bd+9 2c8 2cc 2ce+8 2d8 2da+5 2e5+4 2ec+13 37e",
  "385 387 605 6dd 8e2 e3f fd5+3 2000+b 200e+20 2030+1e 2050+9 205b+1 205e+6 2066+a 2074+a",
  "2080+e 20a0+21 2100+25 2127+2 212c+5 2133+1a 214f+10 2189+2 2190+299 2440+a 2460+39f",
  "2900+273 2b76+89 2e00+16 2e18+17 2e32+9 2e3d+3 2e42 2e44+19 3000 3004 3012 3020 3036 3248+17",
  "327f 32b1+e 32cc+3 3371+9 3380+5f 33ff 4dc0+3f a708+19 a788+2 ab5b ab6a+1 fe10+9 fe30+14",
  "fe47+b fe54+12 fe68+3 feff ff01+1f ff3b+5 ff5b+5 ffe0+6 ffe8+6 fff9+4 10190+c 101d0+2c",
  "1cc00+fc 1cd00+1b3 1ceba+16 1cee0+10 1cf50+73 1d000+f5 1d100+26 1d129+3d 1d16a+10 1d183+1",
  "1d18c+1d 1d1ae+3c 1d2c0+13 1d2e0+13 1d300+56 1d372+6 1d400+54 1d456+46 1d49e+1 1d4a2 1d4a5+1",
  "1d4a9+3 1d4ae+b 1d4bb 1d4bd+6 1d4c5+40 1d507+3 1d50d+7 1d516+6 1d51e+1b 1d53b+3 1d540+4",
  "1d546 1d54a+6 1d552+153 1d6a8+123 1d7ce+31 1ec71+43 1ed01+3c 1f000+2b 1f030+63 1f0a0+e",
  "1f0b1+e 1f0c1+e 1f0d1+24 1f100+ad 1f1e6+19 1f201+1 1f210+2b 1f240+8 1f260+5 1f300+3d8",
  "1f6dc+10 1f6f0+c 1f700+d9 1f7e0+b 1f7f0 1f800+b 1f810+37 1f850+9 1f860+27 1f890+1d 1f8b0+b",
  "1f8c0+1 1f8d0+8 1f900+157 1fa60+d 1fa70+c 1fa80+a 1fa8e+38 1fac8 1facd+f 1fadf+b 1faef+9",
  "1fb00+92 1fb94+66 e0001 e0020+5f"]

def coptic : CharSet := .ofTable [
  "b7 300 304+1 307 374+1 3e2+d 2c80+73 2cf9+6 2e17 102e0+1b"]

def cypriot : CharSet := .ofTable [
  "10100+2 10107+2c 10137+8 10800+5 10808 1080a+2b 10837+1 1083c 1083f"]

def cyproMinoan : CharSet := .ofTable ["10100+1 12f90+62"]

def cyrillic : CharSet := .ofTable [
  "2bc 300+2 304 306 308 30b 311 400+12f 1c80+a 1d2b 1d78 1df8 2de0+1f 2e43 a640+5f fe2e+1",
  "1e030+3d 1e08f"]

def devanagari : CharSet := .ofTable [
  "2bc 900+52 955+2a 1cd0+26 1cf8+1 20f0 a830+9 a8e0+1f 11b00+9"]

def dogra : CharSet := .ofTable ["964+b a830+9 11800+3b"]

def duployan : CharSet := .ofTable [
  "b7 307+1 30a 323+1 2e3c 1bc00+6a 1bc70+c 1bc80+8 1bc90+9 1bc9c+7"]

def elbasan : CharSet := .ofTable ["b7 305 10500+27"]

def ethiopic : CharSet := .ofTable [
  "30e 1200+48 124a+3 1250+6 1258 125a+3 1260+28 128a+3 1290+20 12b2+3 12b8+6 12c0 12c2+3",
  "12c8+e 12d8+38 1312+3 1318+42 135d+1f 1380+19 2d80+16 2da0+6 2da8+6 2db0+6 2db8+6 2dc0+6",
  "2dc8+6 2dd0+6 2dd8+6 ab01+5 ab09+5 ab11+5 ab20+6 ab28+6 1e7e0+6 1e7e8+3 1e7ed+1 1e7f0+e"]

def garay : CharSet := .ofTable ["60c 61b 61f 10d40+25 10d69+1c 10d8e+1"]

def georgian : CharSet := .ofTable [
  "b7 589 10a0+25 10c7 10cd 10d0+2f 1c90+2a 1cbd+2 205a 2d00+25 2d27 2d2d 2e31"]

def glagolitic : CharSet := .ofTable [
  "b7 303 305 484 487 589 10fb 205a 2c00+5f 2e43 a66f 1e000+6 1e008+10 1e01b+6 1e023+1 1e026+4"]

def gothic : CharSet := .ofTable ["b7 304+1 308 331 10330+1a"]

def grantha : CharSet := .ofTable [
  "951+1 964+1 be6+d 1cd0 1cd2+1 1cf2+2 1cf8+1 20f0 11300+3 11305+7 1130f+1 11313+15 1132a+6",
  "11332+1 11335+4 1133b+9 11347+1 1134b+2 11350 11357 1135d+6 11366+6 11370+4 11fd0+1 11fd3"]

def greek : CharSet := .ofTable [
  "b7 300+1 304 306 308 313 342 345 370+7 37a+3 37f 384 386 388+2 38c 38e+13 3a3+3e 3f0+f",
  "1d26+4 1d5d+4 1d66+4 1dbf+2 1f00+15 1f18+5 1f20+25 1f48+5 1f50+7 1f59 1f5b 1f5d 1f5f+1e",
  "1f80+34 1fb6+e 1fc6+d 1fd6+5 1fdd+12 1ff2+2 1ff6+8 205d 2126 ab65 10140+4e 101a0 1d200+45"]

def gujarati : CharSet := .ofTable [
  "951+1 964+1 a81+2 a85+8 a8f+2 a93+15 aaa+6 ab2+1 ab5+4 abc+9 ac7+2 acb+2 ad0 ae0+3 ae6+b",
  "af9+6 a830+9"]

def gunjalaGondi : CharSet := .ofTable [
  "b7 964+1 11d60+5 11d67+1 11d6a+24 11d90+1 11d93+5 11da0+9"]

def gurmukhi : CharSet := .ofTable [
  "951+1 964+1 a01+2 a05+5 a0f+1 a13+15 a2a+6 a32+1 a35+1 a38+1 a3c a3e+4 a47+1 a4b+2 a51 a59+3",
  "a5e a66+10 a830+9"]

def gurungKhema : CharSet := .ofTable ["965 16100+39"]

def han : CharSet := .ofTable [
  "b7 2e80+19 2e9b+58 2f00+d5 2ff0+f 3001+2 3005+c 3013+c 3021+c 3030 3037+8 30fb 3190+f",
  "31c0+25 31ef 3220+27 3280+30 32c0+b 32ff 3358+18 337b+4 33e0+1e 3400+19bf 4e00+51ff a700+7",
  "f900+16d fa70+69 fe45+1 ff61+4 16fe2+1 16ff0+6 1d360+11 1f250+1 20000+a6df 2a700+111d",
  "2b820+168d 2ceb0+1d30 2ebf0+26d 2f800+21d 30000+134a 31350+2129"]

def hangul : CharSet := .ofTable [
  "1100+ff 3001+2 3008+9 3013+c 302e+2 3037 30fb 3131+5d 3200+1e 3260+1e a960+1c ac00+2ba3",
  "d7b0+16 d7cb+30 fe45+1 ff61+4 ffa0+1e ffc2+5 ffca+5 ffd2+5 ffda+2"]

def hanifiRohingya : CharSet := .ofTable ["60c 61b 61f 640 6d4 10d00+27 10d30+9"]

def hanunoo : CharSet := .ofTable ["1720+16"]

def hebrew : CharSet := .ofTable [
  "307+1 591+36 5d0+1a 5ef+5 fb1d+19 fb38+4 fb3e fb40+1 fb43+1 fb46+9"]

def hiragana : CharSet := .ofTable [
  "3001+2 3008+9 3013+c 3030+5 3037 303c+1 3041+55 3099+7 30fb+1 fe45+1 ff61+4 ff70 ff9e+1",
  "1b001+11e 1b132 1b150+2 1f200"]

def inherited : CharSet := .ofTable [
  "30f 312 314+e 326+6 32f 332+f 343+1 346+11 359+4 35f+3 953+1 1ab0+2d 1ae0+b 1dc2+35 1df9",
  "1dfb+4 200c+1 20d0+1f fe00+f fe20+d 101fd 1cf00+2d 1cf30+16 1d167+2 1d17b+7 1d185+6 1d1aa+3",
  "e0100+ef"]

def javanese : CharSet := .ofTable ["a980+4d a9cf+a a9de+1"]

def kaithi : CharSet := .ofTable ["966+9 2e31 a830+9 11080+42 110cd"]

def kannada : CharSet := .ofTable [
  "951+1 964+1 c80+c c8e+2 c92+16 caa+9 cb5+4 cbc+8 cc6+2 cca+3 cd5+1 cdc+2 ce0+3 ce6+9 cf1+2",
  "1cd0 1cd2+1 1cda 1cf2 1cf4 a830+5"]

def katakana : CharSet := .ofTable [
  "305 323 3001+2 3008+9 3013+c 3030+5 3037 303c+1 3099+3 30a0+5f 31f0+f 32d0+2e 3300+57 fe45+1",
  "ff61+3e 1aff0+3 1aff5+6 1affd+1 1b000 1b120+2 1b155 1b164+3"]

def kayahLi : CharSet := .ofTable ["a900+2f"]

def khojki : CharSet := .ofTable ["ae6+9 a830+9 11200+11 11213+2e"]

def khudawadi : CharSet := .ofTable ["964+1 a830+9 112b0+3a 112f0+9"]

def latin : CharSet := .ofTable [
  "41+19 61+19 aa b7 ba c0+16 d8+1e f8+1c0 2bc 2c7 2c9+2 2cd 2d7 2d9 2e0+4 300+e 310+1 313",
  "323+2 32d+1 330+1 358 35e 363+c 485+1 951+1 10fb 1d00+25 1d2c+30 1d62+3 1d6b+c 1d79+45 1df8",
  "1e00+ff 202f 2071 207f 2090+c 20f0 212a+1 2132 214e 2160+28 2c60+1f 2e17 a700+7 a722+65",
  "a78b+51 a7f1+e a92e ab30+2a ab5c+8 ab66+3 fb00+6 ff21+19 ff41+19 10780+5 10787+29 107b2+8",
  "1df00+1e 1df25+5"]

def limbu : CharSet := .ofTable ["965 1900+1e 1920+b 1930+b 1940 1944+b"]

def linearA : CharSet := .ofTable ["10107+2c 10600+136 10740+15 10760+7"]

def linearB : CharSet := .ofTable [
  "10000+b 1000d+19 10028+12 1003c+1 1003f+e 10050+d 10080+7a 10100+2 10107+2c 10137+8"]

def lisu : CharSet := .ofTable ["2bc 2cd 300a+1 a4d0+2f 11fb0"]

def lycian : CharSet := .ofTable ["205a 10280+1c"]

def lydian : CharSet := .ofTable ["b7 2e31 10920+19 1093f"]

def mahajani : CharSet := .ofTable ["b7 964+b a830+9 11150+26"]

def malayalam : CharSet := .ofTable [
  "951+1 964+1 d00+c d0e+2 d12+32 d46+2 d4a+5 d54+f d66+19 1cda 1cf2 a830+2"]

def mandaic : CharSet := .ofTable ["640 840+1b 85e"]

def manichaean : CharSet := .ofTable ["640 10ac0+26 10aeb+b"]

def masaramGondi : CharSet := .ofTable [
  "964+1 11d00+6 11d08+1 11d0b+2b 11d3a 11d3c+1 11d3f+8 11d50+9"]

def meroiticHieroglyphs : CharSet := .ofTable ["205d 10980+1f"]

def modi : CharSet := .ofTable ["a830+9 11600+44 11650+9"]

def mongolian : CharSet := .ofTable ["1800+19 1820+58 1880+2a 202f 3001+1 3008+3 11660+c"]

def multani : CharSet := .ofTable ["a66+9 11280+6 11288 1128a+3 1128f+e 1129f+a"]

def myanmar : CharSet := .ofTable ["1000+9f a92e a9e0+1e aa60+1f 116d0+13"]

def nandinagari : CharSet := .ofTable [
  "951 964+1 ce6+9 1ce9 1cf2 1cfa a830+5 119a0+7 119aa+2d 119da+a"]

def newa : CharSet := .ofTable ["951+1 1cd5 1cd7+1 1ce2 1ce9 1ceb 1ced 11400+5b 1145d+4"]

def nko : CharSet := .ofTable ["60c 61b 61f 7c0+3a 7fd+2 fd3e+1"]

def olOnal : CharSet := .ofTable ["964+1 1e5d0+2a 1e5ff"]

def oldHungarian : CharSet := .ofTable ["205a 205d 2e31 2e41 10c80+32 10cc0+32 10cfa+5"]

def oldPermic : CharSet := .ofTable ["b7 300 306+2 313 483 10350+2a"]

def oldTurkic : CharSet := .ofTable ["205a 2e30 10c00+48"]

def oldUyghur : CharSet := .ofTable ["640 10af2 10f70+19"]

def oriya : CharSet := .ofTable [
  "951+1 964+1 b01+2 b05+7 b0f+1 b13+15 b2a+6 b32+1 b35+4 b3c+8 b47+1 b4b+2 b55+2 b5c+1 b5f+4",
  "b66+11 1cda 1cf2"]

def osage : CharSet := .ofTable ["301 304 30b 358 104b0+23 104d8+23"]

def phagsPa : CharSet := .ofTable ["1802+1 1805 202f 3002 a840+37"]

def psalterPahlavi : CharSet := .ofTable ["640 10b80+11 10b99+3 10ba9+6"]

def runic : CharSet := .ofTable ["16a0+58"]

def samaritan : CharSet := .ofTable ["800+2d 830+e 2e31"]

def sharada : CharSet := .ofTable [
  "951 1cd7 1cd9 1cdc+1 1ce0 1cea 1ced a830+5 a838 11180+5f 11b60+7"]

def shavian : CharSet := .ofTable ["b7 10450+2f"]

def sinhala : CharSet := .ofTable [
  "964+1 d81+2 d85+11 d9a+17 db3+8 dbd dc0+6 dca dcf+5 dd6 dd8+7 de6+9 df2+2 1cf2 111e1+13"]

def sogdian : CharSet := .ofTable ["640 10f30+29"]

def sunuwar : CharSet := .ofTable ["300+1 303 30d 310 32d 331 11bc0+21 11bf0+9"]

def sylotiNagri : CharSet := .ofTable ["964+1 9e6+9 a800+2c"]

def syriac : CharSet := .ofTable [
  "303+1 307+1 30a 323+2 32d+1 330+1 60c 61b+1 61f 640 64b+a 670 700+d 70f+3b 74d+2 860+a 1df8",
  "1dfa"]

def tagalog : CharSet := .ofTable ["1700+15 171f 1735+1"]

def tagbanwa : CharSet := .ofTable ["1735+1 1760+c 176e+2 1772+1"]

def taiLe : CharSet := .ofTable ["300+1 307+1 30c 1040+9 1950+1d 1970+4"]

def takri : CharSet := .ofTable ["964+1 a830+9 11680+39 116c0+9"]

def tamil : CharSet := .ofTable [
  "951+1 964+1 b82+1 b85+5 b8e+2 b92+3 b99+1 b9c b9e+1 ba3+1 ba8+2 bae+b bbe+4 bc6+2 bca+3 bd0",
  "bd7 be6+14 1cda a8f3 11301 11303 1133b+1 11fc0+31 11fff"]

def tangut : CharSet := .ofTable ["2ff0+f 31ef 16fe0 17000+1aff 18d00+1e 18d80+72"]

def telugu : CharSet := .ofTable [
  "951+1 964+1 c00+c c0e+2 c12+16 c2a+f c3c+8 c46+2 c4a+3 c55+1 c58+2 c5c+1 c60+3 c66+9 c77+8",
  "1cd5+1 1cd8 1cda 1cf2"]

def thaana : CharSet := .ofTable ["60c 61b+1 61f 660+9 780+31 fdf2 fdfd"]

def thai : CharSet := .ofTable ["2bc 2d7 303 331 e01+39 e40+1b"]

def tibetan : CharSet := .ofTable ["f00+47 f49+23 f71+26 f99+23 fbe+e fce+6 fd9+1 3008+3"]

def tifinagh : CharSet := .ofTable ["302 304 306+3 323 2d30+37 2d6f+1 2d7f"]

def tirhuta : CharSet := .ofTable ["951+1 964+1 1cd5 1ce2 1cf2 a830+9 11480+47 114d0+9"]

def todhri : CharSet := .ofTable ["301 304 307 311 313 35e 105c0+33"]

def toto : CharSet := .ofTable ["2bc 1e290+1e"]

def tuluTigalari : CharSet := .ofTable [
  "ce6+9 1cf2 1cf4 a830+5 a8f1 11380+9 1138b 1138e 11390+25 113b7+9 113c2 113c5 113c7+3 113cc+9",
  "113d7+1 113e1+1"]

def yezidi : CharSet := .ofTable ["60c 61b 61f 660+9 10e80+29 10eab+2 10eb0+1"]

def yi : CharSet := .ofTable ["3001+1 3008+9 3014+7 30fb a000+48c a490+36 ff61+4"]

/-- The scripts whose set differs from the one in `Script`, by their names. -/
def differing : List (List String × CharSet) := [
  (["adlm", "adlam"], adlam),
  (["arab", "arabic"], arabic),
  (["armn", "armenian"], armenian),
  (["avst", "avestan"], avestan),
  (["beng", "bengali"], bengali),
  (["bopo", "bopomofo"], bopomofo),
  (["bugi", "buginese"], buginese),
  (["buhd", "buhid"], buhid),
  (["cari", "carian"], carian),
  (["aghb", "caucasianalbanian"], caucasianAlbanian),
  (["cakm", "chakma"], chakma),
  (["cher", "cherokee"], cherokee),
  (["zyyy", "common"], common),
  (["copt", "coptic", "qaac"], coptic),
  (["cprt", "cypriot"], cypriot),
  (["cpmn", "cyprominoan"], cyproMinoan),
  (["cyrl", "cyrillic"], cyrillic),
  (["deva", "devanagari"], devanagari),
  (["dogr", "dogra"], dogra),
  (["dupl", "duployan"], duployan),
  (["elba", "elbasan"], elbasan),
  (["ethi", "ethiopic"], ethiopic),
  (["gara", "garay"], garay),
  (["geor", "georgian"], georgian),
  (["glag", "glagolitic"], glagolitic),
  (["goth", "gothic"], gothic),
  (["gran", "grantha"], grantha),
  (["grek", "greek"], greek),
  (["gujr", "gujarati"], gujarati),
  (["gong", "gunjalagondi"], gunjalaGondi),
  (["guru", "gurmukhi"], gurmukhi),
  (["gukh", "gurungkhema"], gurungKhema),
  (["hani", "han"], han),
  (["hang", "hangul"], hangul),
  (["rohg", "hanifirohingya"], hanifiRohingya),
  (["hano", "hanunoo"], hanunoo),
  (["hebr", "hebrew"], hebrew),
  (["hira", "hiragana"], hiragana),
  (["zinh", "inherited", "qaai"], inherited),
  (["java", "javanese"], javanese),
  (["kthi", "kaithi"], kaithi),
  (["knda", "kannada"], kannada),
  (["kana", "katakana"], katakana),
  (["kali", "kayahli"], kayahLi),
  (["khoj", "khojki"], khojki),
  (["sind", "khudawadi"], khudawadi),
  (["latn", "latin"], latin),
  (["limb", "limbu"], limbu),
  (["lina", "lineara"], linearA),
  (["linb", "linearb"], linearB),
  (["lisu"], lisu),
  (["lyci", "lycian"], lycian),
  (["lydi", "lydian"], lydian),
  (["mahj", "mahajani"], mahajani),
  (["mlym", "malayalam"], malayalam),
  (["mand", "mandaic"], mandaic),
  (["mani", "manichaean"], manichaean),
  (["gonm", "masaramgondi"], masaramGondi),
  (["mero", "meroitichieroglyphs"], meroiticHieroglyphs),
  (["modi"], modi),
  (["mong", "mongolian"], mongolian),
  (["mult", "multani"], multani),
  (["mymr", "myanmar"], myanmar),
  (["nand", "nandinagari"], nandinagari),
  (["newa"], newa),
  (["nkoo", "nko"], nko),
  (["onao", "olonal"], olOnal),
  (["hung", "oldhungarian"], oldHungarian),
  (["perm", "oldpermic"], oldPermic),
  (["orkh", "oldturkic"], oldTurkic),
  (["ougr", "olduyghur"], oldUyghur),
  (["orya", "oriya"], oriya),
  (["osge", "osage"], osage),
  (["phag", "phagspa"], phagsPa),
  (["phlp", "psalterpahlavi"], psalterPahlavi),
  (["runr", "runic"], runic),
  (["samr", "samaritan"], samaritan),
  (["shrd", "sharada"], sharada),
  (["shaw", "shavian"], shavian),
  (["sinh", "sinhala"], sinhala),
  (["sogd", "sogdian"], sogdian),
  (["sunu", "sunuwar"], sunuwar),
  (["sylo", "sylotinagri"], sylotiNagri),
  (["syrc", "syriac"], syriac),
  (["tglg", "tagalog"], tagalog),
  (["tagb", "tagbanwa"], tagbanwa),
  (["tale", "taile"], taiLe),
  (["takr", "takri"], takri),
  (["taml", "tamil"], tamil),
  (["tang", "tangut"], tangut),
  (["telu", "telugu"], telugu),
  (["thaa", "thaana"], thaana),
  (["thai"], thai),
  (["tibt", "tibetan"], tibetan),
  (["tfng", "tifinagh"], tifinagh),
  (["tirh", "tirhuta"], tirhuta),
  (["todr", "todhri"], todhri),
  (["toto"], toto),
  (["tutg", "tulutigalari"], tuluTigalari),
  (["yezi", "yezidi"], yezidi),
  (["yiii", "yi"], yi)]

/-- The sets of all scripts by their names. -/
def all : List (List String × CharSet) := differing ++ Script.all

end Polyglot.Unicode.ScriptExtension
