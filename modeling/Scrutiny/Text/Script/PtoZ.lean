import Scrutiny.Text.Ranges

/-! # Scripts from P to Z

The code points of each script, in ascending ranges.
-/

set_option maxRecDepth 20000

namespace Scrutiny.Text.Script

/-- The Pahawh Hmong script. -/
def pahawhHmong : Ranges := [
  (0x16B00, 0x16B45), (0x16B50, 0x16B59), (0x16B5B, 0x16B61), (0x16B63, 0x16B77),
  (0x16B7D, 0x16B8F)]

/-- The Palmyrene script. -/
def palmyrene : Ranges := [
  (0x10860, 0x1087F)]

/-- The Pau Cin Hau script. -/
def pauCinHau : Ranges := [
  (0x11AC0, 0x11AF8)]

/-- The Phags Pa script. -/
def phagsPa : Ranges := [
  (0xA840, 0xA877)]

/-- The Phoenician script. -/
def phoenician : Ranges := [
  (0x10900, 0x1091B), (0x1091F, 0x1091F)]

/-- The Psalter Pahlavi script. -/
def psalterPahlavi : Ranges := [
  (0x10B80, 0x10B91), (0x10B99, 0x10B9C), (0x10BA9, 0x10BAF)]

/-- The Rejang script. -/
def rejang : Ranges := [
  (0xA930, 0xA953), (0xA95F, 0xA95F)]

/-- The Runic script. -/
def runic : Ranges := [
  (0x16A0, 0x16EA), (0x16EE, 0x16F8)]

/-- The Samaritan script. -/
def samaritan : Ranges := [
  (0x800, 0x82D), (0x830, 0x83E)]

/-- The Saurashtra script. -/
def saurashtra : Ranges := [
  (0xA880, 0xA8C5), (0xA8CE, 0xA8D9)]

/-- The Sharada script. -/
def sharada : Ranges := [
  (0x11180, 0x111DF)]

/-- The Shavian script. -/
def shavian : Ranges := [
  (0x10450, 0x1047F)]

/-- The Siddham script. -/
def siddham : Ranges := [
  (0x11580, 0x115B5), (0x115B8, 0x115DD)]

/-- The SignWriting script. -/
def signWriting : Ranges := [
  (0x1D800, 0x1DA8B), (0x1DA9B, 0x1DA9F), (0x1DAA1, 0x1DAAF)]

/-- The Sinhala script. -/
def sinhala : Ranges := [
  (0xD81, 0xD83), (0xD85, 0xD96), (0xD9A, 0xDB1), (0xDB3, 0xDBB), (0xDBD, 0xDBD), (0xDC0, 0xDC6),
  (0xDCA, 0xDCA), (0xDCF, 0xDD4), (0xDD6, 0xDD6), (0xDD8, 0xDDF), (0xDE6, 0xDEF), (0xDF2, 0xDF4),
  (0x111E1, 0x111F4)]

/-- The Sogdian script. -/
def sogdian : Ranges := [
  (0x10F30, 0x10F59)]

/-- The Sora Sompeng script. -/
def soraSompeng : Ranges := [
  (0x110D0, 0x110E8), (0x110F0, 0x110F9)]

/-- The Soyombo script. -/
def soyombo : Ranges := [
  (0x11A50, 0x11AA2)]

/-- The Sundanese script. -/
def sundanese : Ranges := [
  (0x1B80, 0x1BBF), (0x1CC0, 0x1CC7)]

/-- The Syloti Nagri script. -/
def sylotiNagri : Ranges := [
  (0xA800, 0xA82C)]

/-- The Syriac script. -/
def syriac : Ranges := [
  (0x700, 0x70D), (0x70F, 0x74A), (0x74D, 0x74F), (0x860, 0x86A)]

/-- The Tagalog script. -/
def tagalog : Ranges := [
  (0x1700, 0x1715), (0x171F, 0x171F)]

/-- The Tagbanwa script. -/
def tagbanwa : Ranges := [
  (0x1760, 0x176C), (0x176E, 0x1770), (0x1772, 0x1773)]

/-- The Tai Le script. -/
def taiLe : Ranges := [
  (0x1950, 0x196D), (0x1970, 0x1974)]

/-- The Tai Tham script. -/
def taiTham : Ranges := [
  (0x1A20, 0x1A5E), (0x1A60, 0x1A7C), (0x1A7F, 0x1A89), (0x1A90, 0x1A99), (0x1AA0, 0x1AAD)]

/-- The Tai Viet script. -/
def taiViet : Ranges := [
  (0xAA80, 0xAAC2), (0xAADB, 0xAADF)]

/-- The Takri script. -/
def takri : Ranges := [
  (0x11680, 0x116B9), (0x116C0, 0x116C9)]

/-- The Tamil script. -/
def tamil : Ranges := [
  (0xB82, 0xB83), (0xB85, 0xB8A), (0xB8E, 0xB90), (0xB92, 0xB95), (0xB99, 0xB9A), (0xB9C, 0xB9C),
  (0xB9E, 0xB9F), (0xBA3, 0xBA4), (0xBA8, 0xBAA), (0xBAE, 0xBB9), (0xBBE, 0xBC2), (0xBC6, 0xBC8),
  (0xBCA, 0xBCD), (0xBD0, 0xBD0), (0xBD7, 0xBD7), (0xBE6, 0xBFA), (0x11FC0, 0x11FF1),
  (0x11FFF, 0x11FFF)]

/-- The Tangsa script. -/
def tangsa : Ranges := [
  (0x16A70, 0x16ABE), (0x16AC0, 0x16AC9)]

/-- The Tangut script. -/
def tangut : Ranges := [
  (0x16FE0, 0x16FE0), (0x17000, 0x187F7), (0x18800, 0x18AFF), (0x18D00, 0x18D08)]

/-- The Telugu script. -/
def telugu : Ranges := [
  (0xC00, 0xC0C), (0xC0E, 0xC10), (0xC12, 0xC28), (0xC2A, 0xC39), (0xC3C, 0xC44), (0xC46, 0xC48),
  (0xC4A, 0xC4D), (0xC55, 0xC56), (0xC58, 0xC5A), (0xC5D, 0xC5D), (0xC60, 0xC63), (0xC66, 0xC6F),
  (0xC77, 0xC7F)]

/-- The Thaana script. -/
def thaana : Ranges := [
  (0x780, 0x7B1)]

/-- The Thai script. -/
def thai : Ranges := [
  (0xE01, 0xE3A), (0xE40, 0xE5B)]

/-- The Tibetan script. -/
def tibetan : Ranges := [
  (0xF00, 0xF47), (0xF49, 0xF6C), (0xF71, 0xF97), (0xF99, 0xFBC), (0xFBE, 0xFCC), (0xFCE, 0xFD4),
  (0xFD9, 0xFDA)]

/-- The Tifinagh script. -/
def tifinagh : Ranges := [
  (0x2D30, 0x2D67), (0x2D6F, 0x2D70), (0x2D7F, 0x2D7F)]

/-- The Tirhuta script. -/
def tirhuta : Ranges := [
  (0x11480, 0x114C7), (0x114D0, 0x114D9)]

/-- The Toto script. -/
def toto : Ranges := [
  (0x1E290, 0x1E2AE)]

/-- The Ugaritic script. -/
def ugaritic : Ranges := [
  (0x10380, 0x1039D), (0x1039F, 0x1039F)]

/-- The Vai script. -/
def vai : Ranges := [
  (0xA500, 0xA62B)]

/-- The Vithkuqi script. -/
def vithkuqi : Ranges := [
  (0x10570, 0x1057A), (0x1057C, 0x1058A), (0x1058C, 0x10592), (0x10594, 0x10595),
  (0x10597, 0x105A1), (0x105A3, 0x105B1), (0x105B3, 0x105B9), (0x105BB, 0x105BC)]

/-- The Wancho script. -/
def wancho : Ranges := [
  (0x1E2C0, 0x1E2F9), (0x1E2FF, 0x1E2FF)]

/-- The Warang Citi script. -/
def warangCiti : Ranges := [
  (0x118A0, 0x118F2), (0x118FF, 0x118FF)]

/-- The Yezidi script. -/
def yezidi : Ranges := [
  (0x10E80, 0x10EA9), (0x10EAB, 0x10EAD), (0x10EB0, 0x10EB1)]

/-- The Yi script. -/
def yi : Ranges := [
  (0xA000, 0xA48C), (0xA490, 0xA4C6)]

/-- The Zanabazar Square script. -/
def zanabazarSquare : Ranges := [
  (0x11A00, 0x11A47)]

end Scrutiny.Text.Script
