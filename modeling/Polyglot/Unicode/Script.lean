import Polyglot.Unicode.CharSet

/-!
# Scripts

The writing system that each character belongs to. The characters that several systems share
belong to `common`, and the marks that take the script of their base to `inherited`.
-/

namespace Polyglot.Unicode.Script

def adlam : CharSet := .ofTable ["1e900+4b 1e950+9 1e95e+1"]

def ahom : CharSet := .ofTable ["11700+1a 1171d+e 11730+16"]

def anatolianHieroglyphs : CharSet := .ofTable ["14400+246"]

def arabic : CharSet := .ofTable [
  "600+4 606+5 60d+d 61c+2 620+1f 641+9 656+19 671+6b 6de+21 750+2f 870+21 897+4a 8e3+1c",
  "fb50+1ed fd40+8f fdf0+f fe70+4 fe76+86 10e60+1e 10ec2+5 10ed0+8 10efa+5 1ee00+3 1ee05+1a",
  "1ee21+1 1ee24 1ee27 1ee29+9 1ee34+3 1ee39 1ee3b 1ee42 1ee47 1ee49 1ee4b 1ee4d+2 1ee51+1",
  "1ee54 1ee57 1ee59 1ee5b 1ee5d 1ee5f 1ee61+1 1ee64 1ee67+3 1ee6c+6 1ee74+3 1ee79+3 1ee7e",
  "1ee80+9 1ee8b+10 1eea1+2 1eea5+4 1eeab+10 1eef0+1"]

def armenian : CharSet := .ofTable ["531+25 559+31 58d+2 fb13+4"]

def avestan : CharSet := .ofTable ["10b00+35 10b39+6"]

def balinese : CharSet := .ofTable ["1b00+4c 1b4e+31"]

def bamum : CharSet := .ofTable ["a6a0+57 16800+238"]

def bassaVah : CharSet := .ofTable ["16ad0+1d 16af0+5"]

def batak : CharSet := .ofTable ["1bc0+33 1bfc+3"]

def bengali : CharSet := .ofTable [
  "980+3 985+7 98f+1 993+15 9aa+6 9b2 9b6+3 9bc+8 9c7+1 9cb+3 9d7 9dc+1 9df+4 9e6+18"]

def beriaErfe : CharSet := .ofTable ["16ea0+18 16ebb+18"]

def bhaiksuki : CharSet := .ofTable ["11c00+8 11c0a+2c 11c38+d 11c50+1c"]

def bopomofo : CharSet := .ofTable ["2ea+1 3105+2a 31a0+1f"]

def brahmi : CharSet := .ofTable ["11000+4d 11052+23 1107f"]

def braille : CharSet := .ofTable ["2800+ff"]

def buginese : CharSet := .ofTable ["1a00+1b 1a1e+1"]

def buhid : CharSet := .ofTable ["1740+13"]

def canadianAboriginal : CharSet := .ofTable ["1400+27f 18b0+45 11ab0+f"]

def carian : CharSet := .ofTable ["102a0+30"]

def caucasianAlbanian : CharSet := .ofTable ["10530+33 1056f"]

def chakma : CharSet := .ofTable ["11100+34 11136+11"]

def cham : CharSet := .ofTable ["aa00+36 aa40+d aa50+9 aa5c+3"]

def cherokee : CharSet := .ofTable ["13a0+55 13f8+5 ab70+4f"]

def chorasmian : CharSet := .ofTable ["10fb0+1b"]

def common : CharSet := .ofTable [
  "0+40 5b+5 7b+2e ab+e bb+4 d7 f7 2b9+26 2e5+4 2ec+13 374 37e 385 387 605 60c 61b 61f 640 6dd",
  "8e2 964+1 e3f fd5+3 10fb 16eb+2 1735+1 1802+1 1805 1cd3 1ce1 1ce9+3 1cee+5 1cf5+2 1cfa",
  "2000+b 200e+56 2066+a 2074+a 2080+e 20a0+21 2100+25 2127+2 212c+5 2133+1a 214f+10 2189+2",
  "2190+299 2440+a 2460+39f 2900+273 2b76+89 2e00+5d 2ff0+14 3006 3008+18 3030+7 303c+3 309b+1",
  "30a0 30fb+1 3190+f 31c0+25 31ef 3220+3f 327f+50 32ff 3358+a7 4dc0+3f a700+21 a788+2 a830+9",
  "a92e a9cf ab5b ab6a+1 fd3e+1 fe10+9 fe30+22 fe54+12 fe68+3 feff ff01+1f ff3b+5 ff5b+a ff70",
  "ff9e+1 ffe0+6 ffe8+6 fff9+4 10100+2 10107+2c 10137+8 10190+c 101d0+2c 102e1+1a 1bca0+3",
  "1cc00+fc 1cd00+1b3 1ceba+16 1cee0+10 1cf50+73 1d000+f5 1d100+26 1d129+3d 1d16a+10 1d183+1",
  "1d18c+1d 1d1ae+3c 1d2c0+13 1d2e0+13 1d300+56 1d360+18 1d400+54 1d456+46 1d49e+1 1d4a2",
  "1d4a5+1 1d4a9+3 1d4ae+b 1d4bb 1d4bd+6 1d4c5+40 1d507+3 1d50d+7 1d516+6 1d51e+1b 1d53b+3",
  "1d540+4 1d546 1d54a+6 1d552+153 1d6a8+123 1d7ce+31 1ec71+43 1ed01+3c 1f000+2b 1f030+63",
  "1f0a0+e 1f0b1+e 1f0c1+e 1f0d1+24 1f100+ad 1f1e6+19 1f201+1 1f210+2b 1f240+8 1f250+1 1f260+5",
  "1f300+3d8 1f6dc+10 1f6f0+c 1f700+d9 1f7e0+b 1f7f0 1f800+b 1f810+37 1f850+9 1f860+27 1f890+1d",
  "1f8b0+b 1f8c0+1 1f8d0+8 1f900+157 1fa60+d 1fa70+c 1fa80+a 1fa8e+38 1fac8 1facd+f 1fadf+b",
  "1faef+9 1fb00+92 1fb94+66 e0001 e0020+5f"]

def coptic : CharSet := .ofTable ["3e2+d 2c80+73 2cf9+6"]

def cuneiform : CharSet := .ofTable ["12000+399 12400+6e 12470+4 12480+c3"]

def cypriot : CharSet := .ofTable ["10800+5 10808 1080a+2b 10837+1 1083c 1083f"]

def cyproMinoan : CharSet := .ofTable ["12f90+62"]

def cyrillic : CharSet := .ofTable [
  "400+84 487+a8 1c80+a 1d2b 1d78 2de0+1f a640+5f fe2e+1 1e030+3d 1e08f"]

def deseret : CharSet := .ofTable ["10400+4f"]

def devanagari : CharSet := .ofTable ["900+50 955+e 966+19 a8e0+1f 11b00+9"]

def divesAkuru : CharSet := .ofTable [
  "11900+6 11909 1190c+7 11915+1 11918+1d 11937+1 1193b+b 11950+9"]

def dogra : CharSet := .ofTable ["11800+3b"]

def duployan : CharSet := .ofTable ["1bc00+6a 1bc70+c 1bc80+8 1bc90+9 1bc9c+3"]

def egyptianHieroglyphs : CharSet := .ofTable ["13000+455 13460+f9a"]

def elbasan : CharSet := .ofTable ["10500+27"]

def elymaic : CharSet := .ofTable ["10fe0+16"]

def ethiopic : CharSet := .ofTable [
  "1200+48 124a+3 1250+6 1258 125a+3 1260+28 128a+3 1290+20 12b2+3 12b8+6 12c0 12c2+3 12c8+e",
  "12d8+38 1312+3 1318+42 135d+1f 1380+19 2d80+16 2da0+6 2da8+6 2db0+6 2db8+6 2dc0+6 2dc8+6",
  "2dd0+6 2dd8+6 ab01+5 ab09+5 ab11+5 ab20+6 ab28+6 1e7e0+6 1e7e8+3 1e7ed+1 1e7f0+e"]

def garay : CharSet := .ofTable ["10d40+25 10d69+1c 10d8e+1"]

def georgian : CharSet := .ofTable [
  "10a0+25 10c7 10cd 10d0+2a 10fc+3 1c90+2a 1cbd+2 2d00+25 2d27 2d2d"]

def glagolitic : CharSet := .ofTable ["2c00+5f 1e000+6 1e008+10 1e01b+6 1e023+1 1e026+4"]

def gothic : CharSet := .ofTable ["10330+1a"]

def grantha : CharSet := .ofTable [
  "11300+3 11305+7 1130f+1 11313+15 1132a+6 11332+1 11335+4 1133c+8 11347+1 1134b+2 11350 11357",
  "1135d+6 11366+6 11370+4"]

def greek : CharSet := .ofTable [
  "370+3 375+2 37a+3 37f 384 386 388+2 38c 38e+13 3a3+3e 3f0+f 1d26+4 1d5d+4 1d66+4 1dbf",
  "1f00+15 1f18+5 1f20+25 1f48+5 1f50+7 1f59 1f5b 1f5d 1f5f+1e 1f80+34 1fb6+e 1fc6+d 1fd6+5",
  "1fdd+12 1ff2+2 1ff6+8 2126 ab65 10140+4e 101a0 1d200+45"]

def gujarati : CharSet := .ofTable [
  "a81+2 a85+8 a8f+2 a93+15 aaa+6 ab2+1 ab5+4 abc+9 ac7+2 acb+2 ad0 ae0+3 ae6+b af9+6"]

def gunjalaGondi : CharSet := .ofTable ["11d60+5 11d67+1 11d6a+24 11d90+1 11d93+5 11da0+9"]

def gurmukhi : CharSet := .ofTable [
  "a01+2 a05+5 a0f+1 a13+15 a2a+6 a32+1 a35+1 a38+1 a3c a3e+4 a47+1 a4b+2 a51 a59+3 a5e a66+10"]

def gurungKhema : CharSet := .ofTable ["16100+39"]

def han : CharSet := .ofTable [
  "2e80+19 2e9b+58 2f00+d5 3005 3007 3021+8 3038+3 3400+19bf 4e00+51ff f900+16d fa70+69 16fe2+1",
  "16ff0+6 20000+a6df 2a700+111d 2b820+168d 2ceb0+1d30 2ebf0+26d 2f800+21d 30000+134a",
  "31350+2129"]

def hangul : CharSet := .ofTable [
  "1100+ff 302e+1 3131+5d 3200+1e 3260+1e a960+1c ac00+2ba3 d7b0+16 d7cb+30 ffa0+1e ffc2+5",
  "ffca+5 ffd2+5 ffda+2"]

def hanifiRohingya : CharSet := .ofTable ["10d00+27 10d30+9"]

def hanunoo : CharSet := .ofTable ["1720+14"]

def hatran : CharSet := .ofTable ["108e0+12 108f4+1 108fb+4"]

def hebrew : CharSet := .ofTable [
  "591+36 5d0+1a 5ef+5 fb1d+19 fb38+4 fb3e fb40+1 fb43+1 fb46+9"]

def hiragana : CharSet := .ofTable ["3041+55 309d+2 1b001+11e 1b132 1b150+2 1f200"]

def imperialAramaic : CharSet := .ofTable ["10840+15 10857+8"]

def inherited : CharSet := .ofTable [
  "300+6f 485+1 64b+a 670 951+3 1ab0+2d 1ae0+b 1cd0+2 1cd4+c 1ce2+6 1ced 1cf4 1cf8+1 1dc0+3f",
  "200c+1 20d0+20 302a+3 3099+1 fe00+f fe20+d 101fd 102e0 1133b 1cf00+2d 1cf30+16 1d167+2",
  "1d17b+7 1d185+6 1d1aa+3 e0100+ef"]

def inscriptionalPahlavi : CharSet := .ofTable ["10b60+12 10b78+7"]

def inscriptionalParthian : CharSet := .ofTable ["10b40+15 10b58+7"]

def javanese : CharSet := .ofTable ["a980+4d a9d0+9 a9de+1"]

def kaithi : CharSet := .ofTable ["11080+42 110cd"]

def kannada : CharSet := .ofTable [
  "c80+c c8e+2 c92+16 caa+9 cb5+4 cbc+8 cc6+2 cca+3 cd5+1 cdc+2 ce0+3 ce6+9 cf1+2"]

def katakana : CharSet := .ofTable [
  "30a1+59 30fd+2 31f0+f 32d0+2e 3300+57 ff66+9 ff71+2c 1aff0+3 1aff5+6 1affd+1 1b000 1b120+2",
  "1b155 1b164+3"]

def kawi : CharSet := .ofTable ["11f00+10 11f12+28 11f3e+1c"]

def kayahLi : CharSet := .ofTable ["a900+2d a92f"]

def kharoshthi : CharSet := .ofTable [
  "10a00+3 10a05+1 10a0c+7 10a15+2 10a19+1c 10a38+2 10a3f+9 10a50+8"]

def khitanSmallScript : CharSet := .ofTable ["16fe4 18b00+1d5 18cff"]

def khmer : CharSet := .ofTable ["1780+5d 17e0+9 17f0+9 19e0+1f"]

def khojki : CharSet := .ofTable ["11200+11 11213+2e"]

def khudawadi : CharSet := .ofTable ["112b0+3a 112f0+9"]

def kiratRai : CharSet := .ofTable ["16d40+39"]

def lao : CharSet := .ofTable [
  "e81+1 e84 e86+4 e8c+17 ea5 ea7+16 ec0+4 ec6 ec8+6 ed0+9 edc+3"]

def latin : CharSet := .ofTable [
  "41+19 61+19 aa ba c0+16 d8+1e f8+1c0 2e0+4 1d00+25 1d2c+30 1d62+3 1d6b+c 1d79+45 1e00+ff",
  "2071 207f 2090+c 212a+1 2132 214e 2160+28 2c60+1f a722+65 a78b+51 a7f1+e ab30+2a ab5c+8",
  "ab66+3 fb00+6 ff21+19 ff41+19 10780+5 10787+29 107b2+8 1df00+1e 1df25+5"]

def lepcha : CharSet := .ofTable ["1c00+37 1c3b+e 1c4d+2"]

def limbu : CharSet := .ofTable ["1900+1e 1920+b 1930+b 1940 1944+b"]

def linearA : CharSet := .ofTable ["10600+136 10740+15 10760+7"]

def linearB : CharSet := .ofTable [
  "10000+b 1000d+19 10028+12 1003c+1 1003f+e 10050+d 10080+7a"]

def lisu : CharSet := .ofTable ["a4d0+2f 11fb0"]

def lycian : CharSet := .ofTable ["10280+1c"]

def lydian : CharSet := .ofTable ["10920+19 1093f"]

def mahajani : CharSet := .ofTable ["11150+26"]

def makasar : CharSet := .ofTable ["11ee0+18"]

def malayalam : CharSet := .ofTable ["d00+c d0e+2 d12+32 d46+2 d4a+5 d54+f d66+19"]

def mandaic : CharSet := .ofTable ["840+1b 85e"]

def manichaean : CharSet := .ofTable ["10ac0+26 10aeb+b"]

def marchen : CharSet := .ofTable ["11c70+1f 11c92+15 11ca9+d"]

def masaramGondi : CharSet := .ofTable ["11d00+6 11d08+1 11d0b+2b 11d3a 11d3c+1 11d3f+8 11d50+9"]

def medefaidrin : CharSet := .ofTable ["16e40+5a"]

def meeteiMayek : CharSet := .ofTable ["aae0+16 abc0+2d abf0+9"]

def mendeKikakui : CharSet := .ofTable ["1e800+c4 1e8c7+f"]

def meroiticCursive : CharSet := .ofTable ["109a0+17 109bc+13 109d2+2d"]

def meroiticHieroglyphs : CharSet := .ofTable ["10980+1f"]

def miao : CharSet := .ofTable ["16f00+4a 16f4f+38 16f8f+10"]

def modi : CharSet := .ofTable ["11600+44 11650+9"]

def mongolian : CharSet := .ofTable ["1800+1 1804 1806+13 1820+58 1880+2a 11660+c"]

def mro : CharSet := .ofTable ["16a40+1e 16a60+9 16a6e+1"]

def multani : CharSet := .ofTable ["11280+6 11288 1128a+3 1128f+e 1129f+a"]

def myanmar : CharSet := .ofTable ["1000+9f a9e0+1e aa60+1f 116d0+13"]

def nabataean : CharSet := .ofTable ["10880+1e 108a7+8"]

def nagMundari : CharSet := .ofTable ["1e4d0+29"]

def nandinagari : CharSet := .ofTable ["119a0+7 119aa+2d 119da+a"]

def newTaiLue : CharSet := .ofTable ["1980+2b 19b0+19 19d0+a 19de+1"]

def newa : CharSet := .ofTable ["11400+5b 1145d+4"]

def nko : CharSet := .ofTable ["7c0+3a 7fd+2"]

def nushu : CharSet := .ofTable ["16fe1 1b170+18b"]

def nyiakengPuachueHmong : CharSet := .ofTable ["1e100+2c 1e130+d 1e140+9 1e14e+1"]

def ogham : CharSet := .ofTable ["1680+1c"]

def olChiki : CharSet := .ofTable ["1c50+2f"]

def olOnal : CharSet := .ofTable ["1e5d0+2a 1e5ff"]

def oldHungarian : CharSet := .ofTable ["10c80+32 10cc0+32 10cfa+5"]

def oldItalic : CharSet := .ofTable ["10300+23 1032d+2"]

def oldNorthArabian : CharSet := .ofTable ["10a80+1f"]

def oldPermic : CharSet := .ofTable ["10350+2a"]

def oldPersian : CharSet := .ofTable ["103a0+23 103c8+d"]

def oldSogdian : CharSet := .ofTable ["10f00+27"]

def oldSouthArabian : CharSet := .ofTable ["10a60+1f"]

def oldTurkic : CharSet := .ofTable ["10c00+48"]

def oldUyghur : CharSet := .ofTable ["10f70+19"]

def oriya : CharSet := .ofTable [
  "b01+2 b05+7 b0f+1 b13+15 b2a+6 b32+1 b35+4 b3c+8 b47+1 b4b+2 b55+2 b5c+1 b5f+4 b66+11"]

def osage : CharSet := .ofTable ["104b0+23 104d8+23"]

def osmanya : CharSet := .ofTable ["10480+1d 104a0+9"]

def pahawhHmong : CharSet := .ofTable ["16b00+45 16b50+9 16b5b+6 16b63+14 16b7d+12"]

def palmyrene : CharSet := .ofTable ["10860+1f"]

def pauCinHau : CharSet := .ofTable ["11ac0+38"]

def phagsPa : CharSet := .ofTable ["a840+37"]

def phoenician : CharSet := .ofTable ["10900+1b 1091f"]

def psalterPahlavi : CharSet := .ofTable ["10b80+11 10b99+3 10ba9+6"]

def rejang : CharSet := .ofTable ["a930+23 a95f"]

def runic : CharSet := .ofTable ["16a0+4a 16ee+a"]

def samaritan : CharSet := .ofTable ["800+2d 830+e"]

def saurashtra : CharSet := .ofTable ["a880+45 a8ce+b"]

def sharada : CharSet := .ofTable ["11180+5f 11b60+7"]

def shavian : CharSet := .ofTable ["10450+2f"]

def siddham : CharSet := .ofTable ["11580+35 115b8+25"]

def sidetic : CharSet := .ofTable ["10940+19"]

def signwriting : CharSet := .ofTable ["1d800+28b 1da9b+4 1daa1+e"]

def sinhala : CharSet := .ofTable [
  "d81+2 d85+11 d9a+17 db3+8 dbd dc0+6 dca dcf+5 dd6 dd8+7 de6+9 df2+2 111e1+13"]

def sogdian : CharSet := .ofTable ["10f30+29"]

def soraSompeng : CharSet := .ofTable ["110d0+18 110f0+9"]

def soyombo : CharSet := .ofTable ["11a50+52"]

def sundanese : CharSet := .ofTable ["1b80+3f 1cc0+7"]

def sunuwar : CharSet := .ofTable ["11bc0+21 11bf0+9"]

def sylotiNagri : CharSet := .ofTable ["a800+2c"]

def syriac : CharSet := .ofTable ["700+d 70f+3b 74d+2 860+a"]

def tagalog : CharSet := .ofTable ["1700+15 171f"]

def tagbanwa : CharSet := .ofTable ["1760+c 176e+2 1772+1"]

def taiLe : CharSet := .ofTable ["1950+1d 1970+4"]

def taiTham : CharSet := .ofTable ["1a20+3e 1a60+1c 1a7f+a 1a90+9 1aa0+d"]

def taiViet : CharSet := .ofTable ["aa80+42 aadb+4"]

def taiYo : CharSet := .ofTable ["1e6c0+1e 1e6e0+15 1e6fe+1"]

def takri : CharSet := .ofTable ["11680+39 116c0+9"]

def tamil : CharSet := .ofTable [
  "b82+1 b85+5 b8e+2 b92+3 b99+1 b9c b9e+1 ba3+1 ba8+2 bae+b bbe+4 bc6+2 bca+3 bd0 bd7 be6+14",
  "11fc0+31 11fff"]

def tangsa : CharSet := .ofTable ["16a70+4e 16ac0+9"]

def tangut : CharSet := .ofTable ["16fe0 17000+1aff 18d00+1e 18d80+72"]

def telugu : CharSet := .ofTable [
  "c00+c c0e+2 c12+16 c2a+f c3c+8 c46+2 c4a+3 c55+1 c58+2 c5c+1 c60+3 c66+9 c77+8"]

def thaana : CharSet := .ofTable ["780+31"]

def thai : CharSet := .ofTable ["e01+39 e40+1b"]

def tibetan : CharSet := .ofTable ["f00+47 f49+23 f71+26 f99+23 fbe+e fce+6 fd9+1"]

def tifinagh : CharSet := .ofTable ["2d30+37 2d6f+1 2d7f"]

def tirhuta : CharSet := .ofTable ["11480+47 114d0+9"]

def todhri : CharSet := .ofTable ["105c0+33"]

def tolongSiki : CharSet := .ofTable ["11db0+2b 11de0+9"]

def toto : CharSet := .ofTable ["1e290+1e"]

def tuluTigalari : CharSet := .ofTable [
  "11380+9 1138b 1138e 11390+25 113b7+9 113c2 113c5 113c7+3 113cc+9 113d7+1 113e1+1"]

def ugaritic : CharSet := .ofTable ["10380+1d 1039f"]

def vai : CharSet := .ofTable ["a500+12b"]

def vithkuqi : CharSet := .ofTable [
  "10570+a 1057c+e 1058c+6 10594+1 10597+a 105a3+e 105b3+6 105bb+1"]

def wancho : CharSet := .ofTable ["1e2c0+39 1e2ff"]

def warangCiti : CharSet := .ofTable ["118a0+52 118ff"]

def yezidi : CharSet := .ofTable ["10e80+29 10eab+2 10eb0+1"]

def yi : CharSet := .ofTable ["a000+48c a490+36"]

def zanabazarSquare : CharSet := .ofTable ["11a00+47"]

/-- The scripts by their names, written without case and separators. -/
def all : List (List String × CharSet) := [
  (["adlm", "adlam"], adlam),
  (["ahom"], ahom),
  (["hluw", "anatolianhieroglyphs"], anatolianHieroglyphs),
  (["arab", "arabic"], arabic),
  (["armn", "armenian"], armenian),
  (["avst", "avestan"], avestan),
  (["bali", "balinese"], balinese),
  (["bamu", "bamum"], bamum),
  (["bass", "bassavah"], bassaVah),
  (["batk", "batak"], batak),
  (["beng", "bengali"], bengali),
  (["berf", "beriaerfe"], beriaErfe),
  (["bhks", "bhaiksuki"], bhaiksuki),
  (["bopo", "bopomofo"], bopomofo),
  (["brah", "brahmi"], brahmi),
  (["brai", "braille"], braille),
  (["bugi", "buginese"], buginese),
  (["buhd", "buhid"], buhid),
  (["cans", "canadianaboriginal"], canadianAboriginal),
  (["cari", "carian"], carian),
  (["aghb", "caucasianalbanian"], caucasianAlbanian),
  (["cakm", "chakma"], chakma),
  (["cham"], cham),
  (["cher", "cherokee"], cherokee),
  (["chrs", "chorasmian"], chorasmian),
  (["zyyy", "common"], common),
  (["copt", "coptic", "qaac"], coptic),
  (["xsux", "cuneiform"], cuneiform),
  (["cprt", "cypriot"], cypriot),
  (["cpmn", "cyprominoan"], cyproMinoan),
  (["cyrl", "cyrillic"], cyrillic),
  (["dsrt", "deseret"], deseret),
  (["deva", "devanagari"], devanagari),
  (["diak", "divesakuru"], divesAkuru),
  (["dogr", "dogra"], dogra),
  (["dupl", "duployan"], duployan),
  (["egyp", "egyptianhieroglyphs"], egyptianHieroglyphs),
  (["elba", "elbasan"], elbasan),
  (["elym", "elymaic"], elymaic),
  (["ethi", "ethiopic"], ethiopic),
  (["gara", "garay"], garay),
  (["geor", "georgian"], georgian),
  (["glag", "glagolitic"], glagolitic),
  (["goth", "gothic"], gothic),
  (["gran", "grantha"], grantha),
  (["grek", "greek"], greek),
  (["gujr", "gujarati"], gujarati),
  (["gong", "gunjalagondi"], gunjalaGondi),
  (["guru", "gurmukhi"], gurmukhi),
  (["gukh", "gurungkhema"], gurungKhema),
  (["hani", "han"], han),
  (["hang", "hangul"], hangul),
  (["rohg", "hanifirohingya"], hanifiRohingya),
  (["hano", "hanunoo"], hanunoo),
  (["hatr", "hatran"], hatran),
  (["hebr", "hebrew"], hebrew),
  (["hira", "hiragana"], hiragana),
  (["armi", "imperialaramaic"], imperialAramaic),
  (["zinh", "inherited", "qaai"], inherited),
  (["phli", "inscriptionalpahlavi"], inscriptionalPahlavi),
  (["prti", "inscriptionalparthian"], inscriptionalParthian),
  (["java", "javanese"], javanese),
  (["kthi", "kaithi"], kaithi),
  (["knda", "kannada"], kannada),
  (["kana", "katakana"], katakana),
  (["kawi"], kawi),
  (["kali", "kayahli"], kayahLi),
  (["khar", "kharoshthi"], kharoshthi),
  (["kits", "khitansmallscript"], khitanSmallScript),
  (["khmr", "khmer"], khmer),
  (["khoj", "khojki"], khojki),
  (["sind", "khudawadi"], khudawadi),
  (["krai", "kiratrai"], kiratRai),
  (["laoo", "lao"], lao),
  (["latn", "latin"], latin),
  (["lepc", "lepcha"], lepcha),
  (["limb", "limbu"], limbu),
  (["lina", "lineara"], linearA),
  (["linb", "linearb"], linearB),
  (["lisu"], lisu),
  (["lyci", "lycian"], lycian),
  (["lydi", "lydian"], lydian),
  (["mahj", "mahajani"], mahajani),
  (["maka", "makasar"], makasar),
  (["mlym", "malayalam"], malayalam),
  (["mand", "mandaic"], mandaic),
  (["mani", "manichaean"], manichaean),
  (["marc", "marchen"], marchen),
  (["gonm", "masaramgondi"], masaramGondi),
  (["medf", "medefaidrin"], medefaidrin),
  (["mtei", "meeteimayek"], meeteiMayek),
  (["mend", "mendekikakui"], mendeKikakui),
  (["merc", "meroiticcursive"], meroiticCursive),
  (["mero", "meroitichieroglyphs"], meroiticHieroglyphs),
  (["plrd", "miao"], miao),
  (["modi"], modi),
  (["mong", "mongolian"], mongolian),
  (["mroo", "mro"], mro),
  (["mult", "multani"], multani),
  (["mymr", "myanmar"], myanmar),
  (["nbat", "nabataean"], nabataean),
  (["nagm", "nagmundari"], nagMundari),
  (["nand", "nandinagari"], nandinagari),
  (["talu", "newtailue"], newTaiLue),
  (["newa"], newa),
  (["nkoo", "nko"], nko),
  (["nshu", "nushu"], nushu),
  (["hmnp", "nyiakengpuachuehmong"], nyiakengPuachueHmong),
  (["ogam", "ogham"], ogham),
  (["olck", "olchiki"], olChiki),
  (["onao", "olonal"], olOnal),
  (["hung", "oldhungarian"], oldHungarian),
  (["ital", "olditalic"], oldItalic),
  (["narb", "oldnortharabian"], oldNorthArabian),
  (["perm", "oldpermic"], oldPermic),
  (["xpeo", "oldpersian"], oldPersian),
  (["sogo", "oldsogdian"], oldSogdian),
  (["sarb", "oldsoutharabian"], oldSouthArabian),
  (["orkh", "oldturkic"], oldTurkic),
  (["ougr", "olduyghur"], oldUyghur),
  (["orya", "oriya"], oriya),
  (["osge", "osage"], osage),
  (["osma", "osmanya"], osmanya),
  (["hmng", "pahawhhmong"], pahawhHmong),
  (["palm", "palmyrene"], palmyrene),
  (["pauc", "paucinhau"], pauCinHau),
  (["phag", "phagspa"], phagsPa),
  (["phnx", "phoenician"], phoenician),
  (["phlp", "psalterpahlavi"], psalterPahlavi),
  (["rjng", "rejang"], rejang),
  (["runr", "runic"], runic),
  (["samr", "samaritan"], samaritan),
  (["saur", "saurashtra"], saurashtra),
  (["shrd", "sharada"], sharada),
  (["shaw", "shavian"], shavian),
  (["sidd", "siddham"], siddham),
  (["sidt", "sidetic"], sidetic),
  (["sgnw", "signwriting"], signwriting),
  (["sinh", "sinhala"], sinhala),
  (["sogd", "sogdian"], sogdian),
  (["sora", "sorasompeng"], soraSompeng),
  (["soyo", "soyombo"], soyombo),
  (["sund", "sundanese"], sundanese),
  (["sunu", "sunuwar"], sunuwar),
  (["sylo", "sylotinagri"], sylotiNagri),
  (["syrc", "syriac"], syriac),
  (["tglg", "tagalog"], tagalog),
  (["tagb", "tagbanwa"], tagbanwa),
  (["tale", "taile"], taiLe),
  (["lana", "taitham"], taiTham),
  (["tavt", "taiviet"], taiViet),
  (["tayo", "taiyo"], taiYo),
  (["takr", "takri"], takri),
  (["taml", "tamil"], tamil),
  (["tnsa", "tangsa"], tangsa),
  (["tang", "tangut"], tangut),
  (["telu", "telugu"], telugu),
  (["thaa", "thaana"], thaana),
  (["thai"], thai),
  (["tibt", "tibetan"], tibetan),
  (["tfng", "tifinagh"], tifinagh),
  (["tirh", "tirhuta"], tirhuta),
  (["todr", "todhri"], todhri),
  (["tols", "tolongsiki"], tolongSiki),
  (["toto"], toto),
  (["tutg", "tulutigalari"], tuluTigalari),
  (["ugar", "ugaritic"], ugaritic),
  (["vaii", "vai"], vai),
  (["vith", "vithkuqi"], vithkuqi),
  (["wcho", "wancho"], wancho),
  (["wara", "warangciti"], warangCiti),
  (["yezi", "yezidi"], yezidi),
  (["yiii", "yi"], yi),
  (["zanb", "zanabazarsquare"], zanabazarSquare)]

end Polyglot.Unicode.Script
