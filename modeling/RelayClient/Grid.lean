import RelayClient.ReadText

/-!
# Tables of characters

East Asian standards lay their characters out in rows and columns.
-/
namespace RelayClient

/-- A table by row and by column, columns counting from one. A cell without a character holds a
space or lies behind the end of its row. -/
structure Grid where
  firstRow : Nat
  rows : Array String

namespace Grid

def cell? (g : Grid) (row column : Nat) : Option Char :=
  if row < g.firstRow || column = 0 then none
  else (g.rows[row - g.firstRow]?).bind fun r =>
    (r.toList[column - 1]?).filter (· != ' ')

def characters (g : Grid) : List Char :=
  g.rows.toList.flatMap fun r => r.toList.filter (· != ' ')

/-- The characters of a range that a table lacks, in order. -/
def missing (g : Grid) (first last : Nat) : Array Char :=
  let held := g.characters.foldl
    (fun (a : Array Bool) c => if c.toNat < first then a else a.setIfInBounds (c.toNat - first) true)
    (Array.replicate (last + 1 - first) false)
  (List.range (last + 1 - first)).foldl
    (fun a i => if held[i]? = some false then a.push (Char.ofNat (first + i)) else a) #[]

end Grid
end RelayClient
