import RelayClient.ReadText
import RelayClient.Undecodable

/-!
# Reading multi-byte text

A rule says what the bytes ahead begin with. The reading goes on behind a malformed piece; what ends
within a character is one piece, for which only so many bytes are kept.
-/
namespace RelayClient

/-- What comes next: text in so many bytes, a malformed piece, the beginning of something longer, or
a character in a set that no shift leads to. -/
inductive Ahead (σ : Type) where
  | read (t : Text) (size : Nat) (state : σ)
  | malformed (size : Nat)
  | unfinished
  | lost

namespace Ahead

/-- One character or a malformed byte. -/
def ofCell (size : Nat) (c : Option CodePoint) : Ahead Unit :=
  match c with
  | some c => .read [c] size ()
  | none => .malformed 1

def single (b : UInt8) : Ahead Unit := .read [CodePoint.ofNat b.toNat] 1 ()

def longestEnding : Nat := 8

def items {σ : Type} (ahead : σ → Bytes → Ahead σ) : Nat → σ → Bytes → Except Undecodable ReadText
  | 0, _, _ => .ok []
  | _, _, [] => .ok []
  | fuel + 1, s, bytes =>
    match ahead s bytes with
    | .read t size s => do return ReadText.ofText t ++ (← items ahead fuel s (bytes.drop size))
    | .malformed size => do return none :: (← items ahead fuel s (bytes.drop size))
    | .unfinished => if bytes.length > longestEnding then .error .longEnding else .ok [none]
    | .lost => .error .unknownShift

/-- The text that a rule reads from a state on. -/
def text {σ : Type} (ahead : σ → Bytes → Ahead σ) (start : σ) (bytes : Bytes) :
    Except Undecodable ReadText :=
  items ahead bytes.length start bytes

end Ahead
end RelayClient
