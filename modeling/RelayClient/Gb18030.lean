import RelayClient.Gbk

/-!
# GB 18030

What GBK leaves free among the two-byte codes is for private use, save for characters that found
their place in Unicode later. Every other code point has four bytes, in the order of the code points.
-/
namespace RelayClient.Gb18030

def later : Grid where
  firstRow := 0xA2
  rows := #[
    "                                                                                                                                                                  €",
    "",
    "",
    "",
    "",
    "",
    "                                                                                                                              ǹ",
    "                                                                        〾⿰⿱⿲⿳⿴⿵⿶⿷⿸⿹⿺⿻"]

def laterRadicals : Grid where
  firstRow := 0xFE
  rows := #[
    "                ⺁   ⺄㑳㑇⺈⺋ 㖞㘚㘎⺌⺗㥮㤘 㧏㧟㩳㧐  㭎㱮㳠⺧  ⺪䁖䅟⺮䌷⺳⺶⺷ 䎱䎬⺻䏝䓖䙡䙌 䜣䜩䝼䞍⻊䥇䥺䥽䦂䦃䦅䦆䦟䦛䦷䦶  䲣䲟䲠䲡䱷䲢䴓䴔䴕䴖䴗䴘䴙䶮"]

/-- Cells for private use outside whole areas: row, column, how many, and the first code point. -/
def privateRuns : List (Nat × Nat × Nat × Nat) :=
  [(0xA2, 107, 6, 0xE766), (0xA2, 163, 2, 0xE76C), (0xA2, 175, 2, 0xE76E), (0xA2, 189, 2, 0xE770), (0xA4, 180, 11, 0xE772),
    (0xA5, 183, 8, 0xE77D), (0xA6, 121, 8, 0xE785), (0xA6, 153, 7, 0xE78D), (0xA6, 172, 2, 0xE794), (0xA6, 179, 1, 0xE796),
    (0xA6, 182, 9, 0xE797), (0xA7, 130, 15, 0xE7A0), (0xA7, 178, 13, 0xE7AF), (0xA8, 86, 11, 0xE7BC), (0xA8, 124, 1, 0xE7C7),
    (0xA8, 127, 1, 0xE7C8), (0xA8, 129, 4, 0xE7C9), (0xA8, 170, 21, 0xE7CD), (0xA9, 25, 1, 0xE7E2), (0xA9, 28, 1, 0xE7E3),
    (0xA9, 30, 3, 0xE7E4), (0xA9, 73, 13, 0xE7E7), (0xA9, 87, 13, 0xE7F4), (0xA9, 176, 15, 0xE801), (0xD7, 186, 5, 0xE810),
    (0xFE, 17, 80, 0xE815)]

/-- The first number and the first code point of each run of four-byte codes in the basic plane. -/
def fourByteRuns : List (Nat × Nat) :=
  [(0, 0x80), (36, 0xA5), (38, 0xA9), (45, 0xB2), (50, 0xB8), (81, 0xD8), (89, 0xE2),
    (95, 0xEB), (96, 0xEE), (100, 0xF4), (103, 0xF8), (104, 0xFB), (105, 0xFD), (109, 0x102),
    (126, 0x114), (133, 0x11C), (148, 0x12C), (172, 0x145), (175, 0x149), (179, 0x14E), (208, 0x16C),
    (306, 0x1CF), (307, 0x1D1), (308, 0x1D3), (309, 0x1D5), (310, 0x1D7), (311, 0x1D9), (312, 0x1DB),
    (313, 0x1DD), (341, 0x1FA), (428, 0x252), (443, 0x262), (544, 0x2C8), (545, 0x2CC), (558, 0x2DA),
    (741, 0x3A2), (742, 0x3AA), (749, 0x3C2), (750, 0x3CA), (805, 0x402), (819, 0x450), (820, 0x452),
    (7922, 0x2011), (7924, 0x2017), (7925, 0x201A), (7927, 0x201E), (7934, 0x2027), (7943, 0x2031), (7944, 0x2034),
    (7945, 0x2036), (7950, 0x203C), (8062, 0x20AD), (8148, 0x2104), (8149, 0x2106), (8152, 0x210A), (8164, 0x2117),
    (8174, 0x2122), (8236, 0x216C), (8240, 0x217A), (8262, 0x2194), (8264, 0x219A), (8374, 0x2209), (8380, 0x2210),
    (8381, 0x2212), (8384, 0x2216), (8388, 0x221B), (8390, 0x2221), (8392, 0x2224), (8393, 0x2226), (8394, 0x222C),
    (8396, 0x222F), (8401, 0x2238), (8406, 0x223E), (8416, 0x2249), (8419, 0x224D), (8424, 0x2253), (8437, 0x2262),
    (8439, 0x2268), (8445, 0x2270), (8482, 0x2296), (8485, 0x229A), (8496, 0x22A6), (8521, 0x22C0), (8603, 0x2313),
    (8936, 0x246A), (8946, 0x249C), (9046, 0x254C), (9050, 0x2574), (9063, 0x2590), (9066, 0x2596), (9076, 0x25A2),
    (9092, 0x25B4), (9100, 0x25BE), (9108, 0x25C8), (9111, 0x25CC), (9113, 0x25D0), (9131, 0x25E6), (9162, 0x2607),
    (9164, 0x260A), (9218, 0x2641), (9219, 0x2643), (11329, 0x2E82), (11331, 0x2E85), (11334, 0x2E89), (11336, 0x2E8D),
    (11346, 0x2E98), (11361, 0x2EA8), (11363, 0x2EAB), (11366, 0x2EAF), (11370, 0x2EB4), (11372, 0x2EB8), (11375, 0x2EBC),
    (11389, 0x2ECB), (11682, 0x2FFC), (11686, 0x3004), (11687, 0x3018), (11692, 0x301F), (11694, 0x302A), (11714, 0x303F),
    (11716, 0x3094), (11723, 0x309F), (11725, 0x30F7), (11730, 0x30FF), (11736, 0x312A), (11982, 0x322A), (11989, 0x3232),
    (12102, 0x32A4), (12336, 0x3390), (12348, 0x339F), (12350, 0x33A2), (12384, 0x33C5), (12393, 0x33CF), (12395, 0x33D3),
    (12397, 0x33D6), (12510, 0x3448), (12553, 0x3474), (12851, 0x359F), (12962, 0x360F), (12973, 0x361B), (13738, 0x3919),
    (13823, 0x396F), (13919, 0x39D1), (13933, 0x39E0), (14080, 0x3A74), (14298, 0x3B4F), (14585, 0x3C6F), (14698, 0x3CE1),
    (15583, 0x4057), (15847, 0x4160), (16318, 0x4338), (16434, 0x43AD), (16438, 0x43B2), (16481, 0x43DE), (16729, 0x44D7),
    (17102, 0x464D), (17122, 0x4662), (17315, 0x4724), (17320, 0x472A), (17402, 0x477D), (17418, 0x478E), (17859, 0x4948),
    (17909, 0x497B), (17911, 0x497E), (17915, 0x4984), (17916, 0x4987), (17936, 0x499C), (17939, 0x49A0), (17961, 0x49B8),
    (18664, 0x4C78), (18703, 0x4CA4), (18814, 0x4D1A), (18962, 0x4DAF), (19043, 0x9FA6), (33469, 0xE76C), (33470, 0xE7C8),
    (33471, 0xE7E7), (33484, 0xE815), (33485, 0xE819), (33490, 0xE81F), (33497, 0xE827), (33501, 0xE82D), (33505, 0xE833),
    (33513, 0xE83C), (33520, 0xE844), (33536, 0xE856), (33550, 0xE865), (37845, 0xF92D), (37921, 0xF97A), (37948, 0xF996),
    (38029, 0xF9E8), (38038, 0xF9F2), (38064, 0xFA10), (38065, 0xFA12), (38066, 0xFA15), (38069, 0xFA19), (38075, 0xFA22),
    (38076, 0xFA25), (38078, 0xFA2A), (39108, 0xFE32), (39109, 0xFE45), (39113, 0xFE53), (39114, 0xFE58), (39115, 0xFE67),
    (39116, 0xFE6C), (39265, 0xFF5F), (39394, 0xFFE6)]

/-- Three areas that are all for private use, then what is left free in other rows. -/
def private? (lead column : Nat) : Option Nat :=
  if 0xAA ≤ lead ∧ lead ≤ 0xAF ∧ 97 ≤ column then some (0xE000 + 94 * (lead - 0xAA) + (column - 97))
  else if 0xF8 ≤ lead ∧ lead ≤ 0xFE ∧ 97 ≤ column then
    some (0xE234 + 94 * (lead - 0xF8) + (column - 97))
  else if 0xA1 ≤ lead ∧ lead ≤ 0xA7 ∧ column ≤ 96 then
    some (0xE4C6 + 96 * (lead - 0xA1) + (column - 1))
  else
    (privateRuns.find? fun (row, first, count, _) =>
      row = lead && first ≤ column && column < first + count).map
      fun (_, first, _, code) => code + (column - first)

def cell? (lead trail : Nat) : Option CodePoint :=
  match Gbk.cell? lead trail, Gbk.column? trail with
  | some c, _ => some c
  | none, none => none
  | none, some column =>
    match (later.cell? lead column).or (laterRadicals.cell? lead column) with
    | some c => some c
    | none => (private? lead column).map CodePoint.ofNat

def number (a b c d : Nat) : Nat :=
  10 * (126 * (10 * (a - 0x81) + (b - 0x30)) + (c - 0x81)) + (d - 0x30)

/-- The numbers from that of 90 30 81 30 on are for the planes beyond the basic one. -/
def fourBytes? (n : Nat) : Option CodePoint :=
  if n < 39420 then
    (fourByteRuns.reverse.find? fun r => r.1 ≤ n).map fun r => CodePoint.ofNat (r.2 + (n - r.1))
  else if 189000 ≤ n ∧ n - 189000 < 0x100000 then some (CodePoint.ofNat (0x10000 + (n - 189000)))
  else none

end RelayClient.Gb18030
