import Scrutiny.Text.Ranges

/-! # Scripts from I to O

The code points of each script, in ascending ranges.
-/

set_option maxRecDepth 20000

namespace Scrutiny.Text.Script

/-- The Imperial Aramaic script. -/
def imperialAramaic : Ranges := [
  (0x10840, 0x10855), (0x10857, 0x1085F)]

/-- The Inherited script. -/
def inherited : Ranges := [
  (0x300, 0x36F), (0x485, 0x486), (0x64B, 0x655), (0x670, 0x670), (0x951, 0x954),
  (0x1AB0, 0x1ACE), (0x1CD0, 0x1CD2), (0x1CD4, 0x1CE0), (0x1CE2, 0x1CE8), (0x1CED, 0x1CED),
  (0x1CF4, 0x1CF4), (0x1CF8, 0x1CF9), (0x1DC0, 0x1DFF), (0x200C, 0x200D), (0x20D0, 0x20F0),
  (0x302A, 0x302D), (0x3099, 0x309A), (0xFE00, 0xFE0F), (0xFE20, 0xFE2D), (0x101FD, 0x101FD),
  (0x102E0, 0x102E0), (0x1133B, 0x1133B), (0x1CF00, 0x1CF2D), (0x1CF30, 0x1CF46),
  (0x1D167, 0x1D169), (0x1D17B, 0x1D182), (0x1D185, 0x1D18B), (0x1D1AA, 0x1D1AD),
  (0xE0100, 0xE01EF)]

/-- The Inscriptional Pahlavi script. -/
def inscriptionalPahlavi : Ranges := [
  (0x10B60, 0x10B72), (0x10B78, 0x10B7F)]

/-- The Inscriptional Parthian script. -/
def inscriptionalParthian : Ranges := [
  (0x10B40, 0x10B55), (0x10B58, 0x10B5F)]

/-- The Javanese script. -/
def javanese : Ranges := [
  (0xA980, 0xA9CD), (0xA9D0, 0xA9D9), (0xA9DE, 0xA9DF)]

/-- The Kaithi script. -/
def kaithi : Ranges := [
  (0x11080, 0x110C2), (0x110CD, 0x110CD)]

/-- The Kannada script. -/
def kannada : Ranges := [
  (0xC80, 0xC8C), (0xC8E, 0xC90), (0xC92, 0xCA8), (0xCAA, 0xCB3), (0xCB5, 0xCB9), (0xCBC, 0xCC4),
  (0xCC6, 0xCC8), (0xCCA, 0xCCD), (0xCD5, 0xCD6), (0xCDD, 0xCDE), (0xCE0, 0xCE3), (0xCE6, 0xCEF),
  (0xCF1, 0xCF3)]

/-- The Katakana script. -/
def katakana : Ranges := [
  (0x30A1, 0x30FA), (0x30FD, 0x30FF), (0x31F0, 0x31FF), (0x32D0, 0x32FE), (0x3300, 0x3357),
  (0xFF66, 0xFF6F), (0xFF71, 0xFF9D), (0x1AFF0, 0x1AFF3), (0x1AFF5, 0x1AFFB), (0x1AFFD, 0x1AFFE),
  (0x1B000, 0x1B000), (0x1B120, 0x1B122), (0x1B155, 0x1B155), (0x1B164, 0x1B167)]

/-- The Kawi script. -/
def kawi : Ranges := [
  (0x11F00, 0x11F10), (0x11F12, 0x11F3A), (0x11F3E, 0x11F59)]

/-- The Kayah Li script. -/
def kayahLi : Ranges := [
  (0xA900, 0xA92D), (0xA92F, 0xA92F)]

/-- The Kharoshthi script. -/
def kharoshthi : Ranges := [
  (0x10A00, 0x10A03), (0x10A05, 0x10A06), (0x10A0C, 0x10A13), (0x10A15, 0x10A17),
  (0x10A19, 0x10A35), (0x10A38, 0x10A3A), (0x10A3F, 0x10A48), (0x10A50, 0x10A58)]

/-- The Khitan Small Script script. -/
def khitanSmallScript : Ranges := [
  (0x16FE4, 0x16FE4), (0x18B00, 0x18CD5)]

/-- The Khmer script. -/
def khmer : Ranges := [
  (0x1780, 0x17DD), (0x17E0, 0x17E9), (0x17F0, 0x17F9), (0x19E0, 0x19FF)]

/-- The Khojki script. -/
def khojki : Ranges := [
  (0x11200, 0x11211), (0x11213, 0x11241)]

/-- The Khudawadi script. -/
def khudawadi : Ranges := [
  (0x112B0, 0x112EA), (0x112F0, 0x112F9)]

/-- The Lao script. -/
def lao : Ranges := [
  (0xE81, 0xE82), (0xE84, 0xE84), (0xE86, 0xE8A), (0xE8C, 0xEA3), (0xEA5, 0xEA5), (0xEA7, 0xEBD),
  (0xEC0, 0xEC4), (0xEC6, 0xEC6), (0xEC8, 0xECE), (0xED0, 0xED9), (0xEDC, 0xEDF)]

/-- The Latin script. -/
def latin : Ranges := [
  (0x41, 0x5A), (0x61, 0x7A), (0xAA, 0xAA), (0xBA, 0xBA), (0xC0, 0xD6), (0xD8, 0xF6),
  (0xF8, 0x2B8), (0x2E0, 0x2E4), (0x1D00, 0x1D25), (0x1D2C, 0x1D5C), (0x1D62, 0x1D65),
  (0x1D6B, 0x1D77), (0x1D79, 0x1DBE), (0x1E00, 0x1EFF), (0x2071, 0x2071), (0x207F, 0x207F),
  (0x2090, 0x209C), (0x212A, 0x212B), (0x2132, 0x2132), (0x214E, 0x214E), (0x2160, 0x2188),
  (0x2C60, 0x2C7F), (0xA722, 0xA787), (0xA78B, 0xA7CD), (0xA7D0, 0xA7D1), (0xA7D3, 0xA7D3),
  (0xA7D5, 0xA7DC), (0xA7F2, 0xA7FF), (0xAB30, 0xAB5A), (0xAB5C, 0xAB64), (0xAB66, 0xAB69),
  (0xFB00, 0xFB06), (0xFF21, 0xFF3A), (0xFF41, 0xFF5A), (0x10780, 0x10785), (0x10787, 0x107B0),
  (0x107B2, 0x107BA), (0x1DF00, 0x1DF1E), (0x1DF25, 0x1DF2A)]

/-- The Lepcha script. -/
def lepcha : Ranges := [
  (0x1C00, 0x1C37), (0x1C3B, 0x1C49), (0x1C4D, 0x1C4F)]

/-- The Limbu script. -/
def limbu : Ranges := [
  (0x1900, 0x191E), (0x1920, 0x192B), (0x1930, 0x193B), (0x1940, 0x1940), (0x1944, 0x194F)]

/-- The Linear A script. -/
def linearA : Ranges := [
  (0x10600, 0x10736), (0x10740, 0x10755), (0x10760, 0x10767)]

/-- The Linear B script. -/
def linearB : Ranges := [
  (0x10000, 0x1000B), (0x1000D, 0x10026), (0x10028, 0x1003A), (0x1003C, 0x1003D),
  (0x1003F, 0x1004D), (0x10050, 0x1005D), (0x10080, 0x100FA)]

/-- The Lisu script. -/
def lisu : Ranges := [
  (0xA4D0, 0xA4FF), (0x11FB0, 0x11FB0)]

/-- The Lycian script. -/
def lycian : Ranges := [
  (0x10280, 0x1029C)]

/-- The Lydian script. -/
def lydian : Ranges := [
  (0x10920, 0x10939), (0x1093F, 0x1093F)]

/-- The Mahajani script. -/
def mahajani : Ranges := [
  (0x11150, 0x11176)]

/-- The Makasar script. -/
def makasar : Ranges := [
  (0x11EE0, 0x11EF8)]

/-- The Malayalam script. -/
def malayalam : Ranges := [
  (0xD00, 0xD0C), (0xD0E, 0xD10), (0xD12, 0xD44), (0xD46, 0xD48), (0xD4A, 0xD4F), (0xD54, 0xD63),
  (0xD66, 0xD7F)]

/-- The Mandaic script. -/
def mandaic : Ranges := [
  (0x840, 0x85B), (0x85E, 0x85E)]

/-- The Manichaean script. -/
def manichaean : Ranges := [
  (0x10AC0, 0x10AE6), (0x10AEB, 0x10AF6)]

/-- The Marchen script. -/
def marchen : Ranges := [
  (0x11C70, 0x11C8F), (0x11C92, 0x11CA7), (0x11CA9, 0x11CB6)]

/-- The Masaram Gondi script. -/
def masaramGondi : Ranges := [
  (0x11D00, 0x11D06), (0x11D08, 0x11D09), (0x11D0B, 0x11D36), (0x11D3A, 0x11D3A),
  (0x11D3C, 0x11D3D), (0x11D3F, 0x11D47), (0x11D50, 0x11D59)]

/-- The Medefaidrin script. -/
def medefaidrin : Ranges := [
  (0x16E40, 0x16E9A)]

/-- The Meetei Mayek script. -/
def meeteiMayek : Ranges := [
  (0xAAE0, 0xAAF6), (0xABC0, 0xABED), (0xABF0, 0xABF9)]

/-- The Mende Kikakui script. -/
def mendeKikakui : Ranges := [
  (0x1E800, 0x1E8C4), (0x1E8C7, 0x1E8D6)]

/-- The Meroitic Cursive script. -/
def meroiticCursive : Ranges := [
  (0x109A0, 0x109B7), (0x109BC, 0x109CF), (0x109D2, 0x109FF)]

/-- The Meroitic Hieroglyphs script. -/
def meroiticHieroglyphs : Ranges := [
  (0x10980, 0x1099F)]

/-- The Miao script. -/
def miao : Ranges := [
  (0x16F00, 0x16F4A), (0x16F4F, 0x16F87), (0x16F8F, 0x16F9F)]

/-- The Modi script. -/
def modi : Ranges := [
  (0x11600, 0x11644), (0x11650, 0x11659)]

/-- The Mongolian script. -/
def mongolian : Ranges := [
  (0x1800, 0x1801), (0x1804, 0x1804), (0x1806, 0x1819), (0x1820, 0x1878), (0x1880, 0x18AA),
  (0x11660, 0x1166C)]

/-- The Mro script. -/
def mro : Ranges := [
  (0x16A40, 0x16A5E), (0x16A60, 0x16A69), (0x16A6E, 0x16A6F)]

/-- The Multani script. -/
def multani : Ranges := [
  (0x11280, 0x11286), (0x11288, 0x11288), (0x1128A, 0x1128D), (0x1128F, 0x1129D),
  (0x1129F, 0x112A9)]

/-- The Myanmar script. -/
def myanmar : Ranges := [
  (0x1000, 0x109F), (0xA9E0, 0xA9FE), (0xAA60, 0xAA7F)]

/-- The Nabataean script. -/
def nabataean : Ranges := [
  (0x10880, 0x1089E), (0x108A7, 0x108AF)]

/-- The Nag Mundari script. -/
def nagMundari : Ranges := [
  (0x1E4D0, 0x1E4F9)]

/-- The Nandinagari script. -/
def nandinagari : Ranges := [
  (0x119A0, 0x119A7), (0x119AA, 0x119D7), (0x119DA, 0x119E4)]

/-- The New Tai Lue script. -/
def newTaiLue : Ranges := [
  (0x1980, 0x19AB), (0x19B0, 0x19C9), (0x19D0, 0x19DA), (0x19DE, 0x19DF)]

/-- The Newa script. -/
def newa : Ranges := [
  (0x11400, 0x1145B), (0x1145D, 0x11461)]

/-- The Nko script. -/
def nko : Ranges := [
  (0x7C0, 0x7FA), (0x7FD, 0x7FF)]

/-- The Nushu script. -/
def nushu : Ranges := [
  (0x16FE1, 0x16FE1), (0x1B170, 0x1B2FB)]

/-- The Nyiakeng Puachue Hmong script. -/
def nyiakengPuachueHmong : Ranges := [
  (0x1E100, 0x1E12C), (0x1E130, 0x1E13D), (0x1E140, 0x1E149), (0x1E14E, 0x1E14F)]

/-- The Ogham script. -/
def ogham : Ranges := [
  (0x1680, 0x169C)]

/-- The Ol Chiki script. -/
def olChiki : Ranges := [
  (0x1C50, 0x1C7F)]

/-- The Old Hungarian script. -/
def oldHungarian : Ranges := [
  (0x10C80, 0x10CB2), (0x10CC0, 0x10CF2), (0x10CFA, 0x10CFF)]

/-- The Old Italic script. -/
def oldItalic : Ranges := [
  (0x10300, 0x10323), (0x1032D, 0x1032F)]

/-- The Old North Arabian script. -/
def oldNorthArabian : Ranges := [
  (0x10A80, 0x10A9F)]

/-- The Old Permic script. -/
def oldPermic : Ranges := [
  (0x10350, 0x1037A)]

/-- The Old Persian script. -/
def oldPersian : Ranges := [
  (0x103A0, 0x103C3), (0x103C8, 0x103D5)]

/-- The Old Sogdian script. -/
def oldSogdian : Ranges := [
  (0x10F00, 0x10F27)]

/-- The Old South Arabian script. -/
def oldSouthArabian : Ranges := [
  (0x10A60, 0x10A7F)]

/-- The Old Turkic script. -/
def oldTurkic : Ranges := [
  (0x10C00, 0x10C48)]

/-- The Old Uyghur script. -/
def oldUyghur : Ranges := [
  (0x10F70, 0x10F89)]

/-- The Oriya script. -/
def oriya : Ranges := [
  (0xB01, 0xB03), (0xB05, 0xB0C), (0xB0F, 0xB10), (0xB13, 0xB28), (0xB2A, 0xB30), (0xB32, 0xB33),
  (0xB35, 0xB39), (0xB3C, 0xB44), (0xB47, 0xB48), (0xB4B, 0xB4D), (0xB55, 0xB57), (0xB5C, 0xB5D),
  (0xB5F, 0xB63), (0xB66, 0xB77)]

/-- The Osage script. -/
def osage : Ranges := [
  (0x104B0, 0x104D3), (0x104D8, 0x104FB)]

/-- The Osmanya script. -/
def osmanya : Ranges := [
  (0x10480, 0x1049D), (0x104A0, 0x104A9)]

end Scrutiny.Text.Script
