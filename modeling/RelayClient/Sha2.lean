import RelayClient.Value

/-!
# SHA-256 and SHA-512

Both functions share their tables: the shorter one uses the upper halves of the words.
-/
namespace RelayClient.Sha2

/-- The bytes of a number, the highest first. -/
def bigEndian (width n : Nat) : Bytes :=
  match width with
  | 0 => []
  | w + 1 => bigEndian w (n / 256) ++ [UInt8.ofNat n]

def bigEndianValue (bytes : Bytes) : Nat := bytes.foldl (fun n b => 256 * n + b.toNat) 0

/-- Fractions of the square roots of the first eight primes. -/
def start : List UInt64 :=
  [0x6A09E667F3BCC908, 0xBB67AE8584CAA73B, 0x3C6EF372FE94F82B, 0xA54FF53A5F1D36F1,
    0x510E527FADE682D1, 0x9B05688C2B3E6C1F, 0x1F83D9ABFB41BD6B, 0x5BE0CD19137E2179]

/-- Fractions of the cube roots of the first eighty primes. -/
def rounds : List UInt64 :=
  [0x428A2F98D728AE22, 0x7137449123EF65CD, 0xB5C0FBCFEC4D3B2F, 0xE9B5DBA58189DBBC,
    0x3956C25BF348B538, 0x59F111F1B605D019, 0x923F82A4AF194F9B, 0xAB1C5ED5DA6D8118,
    0xD807AA98A3030242, 0x12835B0145706FBE, 0x243185BE4EE4B28C, 0x550C7DC3D5FFB4E2,
    0x72BE5D74F27B896F, 0x80DEB1FE3B1696B1, 0x9BDC06A725C71235, 0xC19BF174CF692694,
    0xE49B69C19EF14AD2, 0xEFBE4786384F25E3, 0x0FC19DC68B8CD5B5, 0x240CA1CC77AC9C65,
    0x2DE92C6F592B0275, 0x4A7484AA6EA6E483, 0x5CB0A9DCBD41FBD4, 0x76F988DA831153B5,
    0x983E5152EE66DFAB, 0xA831C66D2DB43210, 0xB00327C898FB213F, 0xBF597FC7BEEF0EE4,
    0xC6E00BF33DA88FC2, 0xD5A79147930AA725, 0x06CA6351E003826F, 0x142929670A0E6E70,
    0x27B70A8546D22FFC, 0x2E1B21385C26C926, 0x4D2C6DFC5AC42AED, 0x53380D139D95B3DF,
    0x650A73548BAF63DE, 0x766A0ABB3C77B2A8, 0x81C2C92E47EDAEE6, 0x92722C851482353B,
    0xA2BFE8A14CF10364, 0xA81A664BBC423001, 0xC24B8B70D0F89791, 0xC76C51A30654BE30,
    0xD192E819D6EF5218, 0xD69906245565A910, 0xF40E35855771202A, 0x106AA07032BBD1B8,
    0x19A4C116B8D2D0C8, 0x1E376C085141AB53, 0x2748774CDF8EEB99, 0x34B0BCB5E19B48A8,
    0x391C0CB3C5C95A63, 0x4ED8AA4AE3418ACB, 0x5B9CCA4F7763E373, 0x682E6FF3D6B2B8A3,
    0x748F82EE5DEFB2FC, 0x78A5636F43172F60, 0x84C87814A1F0AB72, 0x8CC702081A6439EC,
    0x90BEFFFA23631E28, 0xA4506CEBDE82BDE9, 0xBEF9A3F7B2C67915, 0xC67178F2E372532B,
    0xCA273ECEEA26619C, 0xD186B8C721C0C207, 0xEADA7DD6CDE0EB1E, 0xF57D4F7FEE6ED178,
    0x06F067AA72176FBA, 0x0A637DC5A2C898A6, 0x113F9804BEF90DAE, 0x1B710B35131C471B,
    0x28DB77F523047D84, 0x32CAAB7B40C72493, 0x3C9EBE0A15C9BEBC, 0x431D67C49C100D4C,
    0x4CC5D4BECB3E42B6, 0x597F299CFC657E2A, 0x5FCB6FAB3AD6FAEC, 0x6C44198C4A475817]

/-- A message with its end mark, zeros and its length in bits, in whole blocks. -/
def padded (block lengthWidth : Nat) (message : Bytes) : Bytes :=
  let zeros := (2 * block - 1 - lengthWidth - message.length % block) % block
  message ++ 0x80 :: List.replicate zeros 0 ++ bigEndian lengthWidth (8 * message.length)

/-- The pieces of a given positive size; the last one may be shorter. -/
def pieces (size : Nat) : Nat → Bytes → List Bytes
  | 0, _ => []
  | fuel + 1, bytes =>
    if bytes.isEmpty then [] else bytes.take size :: pieces size fuel (bytes.drop size)

def piecesOf (size : Nat) (bytes : Bytes) : List Bytes := pieces size bytes.length bytes

structure Working (α : Type) where
  a : α
  b : α
  c : α
  d : α
  e : α
  f : α
  g : α
  h : α

def Working.ofList {α : Type} [Inhabited α] : List α → Working α
  | [a, b, c, d, e, f, g, h] => ⟨a, b, c, d, e, f, g, h⟩
  | _ => ⟨default, default, default, default, default, default, default, default⟩

def Working.toList {α : Type} (s : Working α) : List α := [s.a, s.b, s.c, s.d, s.e, s.f, s.g, s.h]

def Working.sum {α : Type} [Add α] (s t : Working α) : Working α :=
  ⟨s.a + t.a, s.b + t.b, s.c + t.c, s.d + t.d, s.e + t.e, s.f + t.f, s.g + t.g, s.h + t.h⟩

/-- One round: `sigma1` and `sigma0` mix the fifth and the first word. -/
def Working.round {α : Type} [Add α] [AndOp α] [XorOp α] [Complement α] (sigma0 sigma1 : α → α)
    (s : Working α) (constant word : α) : Working α :=
  let choice := (s.e &&& s.f) ^^^ (~~~ s.e &&& s.g)
  let majority := (s.a &&& s.b) ^^^ (s.a &&& s.c) ^^^ (s.b &&& s.c)
  let t := s.h + sigma1 s.e + choice + constant + word
  ⟨t + (sigma0 s.a + majority), s.a, s.b, s.c, s.d + t, s.e, s.f, s.g⟩

/-- Extends a schedule, kept with its latest word in front, by a number of words. -/
def extend {α : Type} [Add α] [Inhabited α] (small0 small1 : α → α) : Nat → List α → List α
  | 0, ws => ws
  | n + 1, ws =>
    let word (i : Nat) : α := ws.getD i default
    extend small0 small1 n ((small1 (word 1) + word 6 + small0 (word 14) + word 15) :: ws)

def rotate64 (x : UInt64) (n : UInt64) : UInt64 := x >>> n ||| x <<< (64 - n)

def rotate32 (x : UInt32) (n : UInt32) : UInt32 := x >>> n ||| x <<< (32 - n)

def compress512 (state : Working UInt64) (block : Bytes) : Working UInt64 :=
  let words := (piecesOf 8 block).map fun b => UInt64.ofNat (bigEndianValue b)
  let schedule := (extend
    (fun x => rotate64 x 1 ^^^ rotate64 x 8 ^^^ x >>> 7)
    (fun x => rotate64 x 19 ^^^ rotate64 x 61 ^^^ x >>> 6) 64 words.reverse).reverse
  let mixed := (rounds.zip schedule).foldl (fun s w => s.round
    (fun x => rotate64 x 28 ^^^ rotate64 x 34 ^^^ rotate64 x 39)
    (fun x => rotate64 x 14 ^^^ rotate64 x 18 ^^^ rotate64 x 41) w.1 w.2) state
  state.sum mixed

def compress256 (state : Working UInt32) (block : Bytes) : Working UInt32 :=
  let words := (piecesOf 4 block).map fun b => UInt32.ofNat (bigEndianValue b)
  let schedule := (extend
    (fun x => rotate32 x 7 ^^^ rotate32 x 18 ^^^ x >>> 3)
    (fun x => rotate32 x 17 ^^^ rotate32 x 19 ^^^ x >>> 10) 48 words.reverse).reverse
  let constants := (rounds.take 64).map fun k : UInt64 => (k >>> 32).toUInt32
  let mixed := (constants.zip schedule).foldl (fun s w => s.round
    (fun x => rotate32 x 2 ^^^ rotate32 x 13 ^^^ rotate32 x 22)
    (fun x => rotate32 x 6 ^^^ rotate32 x 11 ^^^ rotate32 x 25) w.1 w.2) state
  state.sum mixed

def sha512 (message : Bytes) : Bytes :=
  let final := (piecesOf 128 (padded 128 16 message)).foldl compress512 (.ofList start)
  final.toList.flatMap fun w => bigEndian 8 w.toNat

def sha256 (message : Bytes) : Bytes :=
  let final := (piecesOf 64 (padded 64 8 message)).foldl compress256
    (.ofList (start.map fun w : UInt64 => (w >>> 32).toUInt32))
  final.toList.flatMap fun w => bigEndian 4 w.toNat

end RelayClient.Sha2
