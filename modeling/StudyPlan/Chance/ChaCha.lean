import StudyPlan.Chance

/-!
# The seeded source

A seed is stretched to a key of eight words, and the key gives a stream of words
by the ChaCha block function with twelve rounds: each block of sixteen words is
a mixing of the constants, the key, a block counter of 64 bits and a zero nonce,
added to what was mixed.
-/

namespace StudyPlan

namespace Chance

namespace ChaCha

/-! ## The key -/

/-- The state after a step of the generator that stretches the seed. -/
def advance (state : UInt64) : UInt64 := state * 6364136223846793005 + 11634580027462260723

/-- A word turned left by some bits. -/
def rotate (x : UInt32) (bits : UInt32) : UInt32 :=
  if bits = 0 then x else (x <<< bits) ||| (x >>> (32 - bits))

/-- The word that a state of the generator gives. -/
def keyWord (state : UInt64) : UInt32 :=
  let mixed := (((state >>> 18) ^^^ state) >>> 27).toUInt32
  let turn := (state >>> 59).toUInt32
  rotate mixed ((32 - turn) % 32)

/-- The first words of a key, from a state on. -/
def keyFrom : Nat → UInt64 → List UInt32
  | 0, _ => []
  | n + 1, state => keyWord (advance state) :: keyFrom n (advance state)

/-- The key of a seed. -/
def key (seed : UInt64) : List UInt32 := keyFrom 8 seed

/-! ## The block -/

/-- The constants of the first row. -/
def constants : List UInt32 := [0x61707865, 0x3320646e, 0x79622d32, 0x6b206574]

/-- The sixteen words before mixing. -/
def start (key : List UInt32) (block : Nat) : Array UInt32 :=
  (constants ++ key ++ [UInt32.ofNat block, UInt32.ofNat (block >>> 32), 0, 0]).toArray

/-- The mixing of four words. -/
def quarter (s : Array UInt32) (a b c d : Nat) : Array UInt32 :=
  let x := s.getD a 0
  let y := s.getD b 0
  let z := s.getD c 0
  let w := s.getD d 0
  let x := x + y
  let w := rotate (w ^^^ x) 16
  let z := z + w
  let y := rotate (y ^^^ z) 12
  let x := x + y
  let w := rotate (w ^^^ x) 8
  let z := z + w
  let y := rotate (y ^^^ z) 7
  (((s.setIfInBounds a x).setIfInBounds b y).setIfInBounds c z).setIfInBounds d w

/-- Two rounds: the columns, then the diagonals. -/
def twoRounds (s : Array UInt32) : Array UInt32 :=
  let s := quarter (quarter (quarter (quarter s 0 4 8 12) 1 5 9 13) 2 6 10 14) 3 7 11 15
  quarter (quarter (quarter (quarter s 0 5 10 15) 1 6 11 12) 2 7 8 13) 3 4 9 14

/-- A number of double rounds. -/
def rounds : Nat → Array UInt32 → Array UInt32
  | 0, s => s
  | n + 1, s => rounds n (twoRounds s)

/-- The words of a block. -/
def block (key : List UInt32) (n : Nat) : List UInt32 :=
  let s := start key n
  List.zipWith (· + ·) (rounds 6 s).toList s.toList

/-- The word at a position of the stream. -/
def word (key : List UInt32) (i : Nat) : UInt32 := (block key (i / 16)).getD (i % 16) 0

end ChaCha

/-- The source of a seed. -/
def Source.ofSeed (seed : Nat) : Source :=
  let key := ChaCha.key (UInt64.ofNat seed)
  Source.ofStream (ChaCha.word key)

end Chance

end StudyPlan
