import RelayClient.Gb2312

/-!
# GBK

GBK keeps GB 2312 where it is and fills the cells around it with signs and with the ideographs that
GB 2312 lacks, in the order of their code points. Rows are numbered by lead bytes and have 190
columns, for the trail bytes 40 to 7E and 80 to FE.
-/
namespace RelayClient.Gbk

def signs : Grid where
  firstRow := 0xA2
  rows := #[
    "                                                                                                ⅰⅱⅲⅳⅴⅵⅶⅷⅸⅹ",
    "",
    "",
    "",
    "                                                                                                                                                               ︵︶︹︺︿﹀︽︾﹁﹂﹃﹄  ︻︼︷︸︱ ︳︴",
    "",
    "ˊˋ˙–―‥‵℅℉↖↗↘↙∕∟∣≒≦≧⊿═║╒╓╔╕╖╗╘╙╚╛╜╝╞╟╠╡╢╣╤╥╦╧╨╩╪╫╬╭╮╯╰╱╲╳▁▂▃▄▅▆▇█▉▊▋▌▍▎▏▓▔▕▼▽◢◣◤◥☉⊕〒〝〞                                     ɑ ńň ɡ",
    "〡〢〣〤〥〦〧〨〩㊣㎎㎏㎜㎝㎞㎡㏄㏎㏑㏒㏕︰￢￤ ℡㈱ ‐   ー゛゜ヽヾ〆ゝゞ﹉﹊﹋﹌﹍﹎﹏﹐﹑﹒﹔﹕﹖﹗﹙﹚﹛﹜﹝﹞﹟﹠﹡﹢﹣﹤﹥﹦﹨﹩﹪﹫             〇"]

/-- Ideographs past the unified block. -/
def compatible : String := "\uf92c\uf979\uf995\uf9e7\uf9f1\ufa0c\ufa0d﨎﨏﨑﨓﨔\ufa18﨟\ufa20﨡﨣﨤﨧﨨﨩"

def ideographs : Array Char :=
  gb2312.missing 0x4E00 0x9FA5 ++ compatible.toList.toArray

def column? (trail : Nat) : Option Nat :=
  if 0x40 ≤ trail ∧ trail ≤ 0x7E then some (trail - 0x3F)
  else if 0x80 ≤ trail ∧ trail ≤ 0xFE then some (trail - 0x40)
  else none

/-- The ideographs fill the rows up to A0 and then the first 96 columns of the rows from AA on. -/
def filler? (lead column : Nat) : Option Char :=
  if 0x81 ≤ lead ∧ lead ≤ 0xA0 then ideographs[190 * (lead - 0x81) + (column - 1)]?
  else if 0xAA ≤ lead ∧ column ≤ 96 then ideographs[190 * 32 + 96 * (lead - 0xAA) + (column - 1)]?
  else signs.cell? lead column

/-- The character of two bytes. Two signs are not those of GB 2312. -/
def cell? (lead trail : Nat) : Option Char :=
  if lead = 0xA1 ∧ trail = 0xA4 then some '·'
  else if lead = 0xA1 ∧ trail = 0xAA then some '—'
  else (gb2312.cell? (lead - 0xA0) (trail - 0xA0)).or ((column? trail).bind (filler? lead))

end RelayClient.Gbk
