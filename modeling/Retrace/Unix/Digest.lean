import Retrace.Unix.Characters

/-!
# Digests

Short texts that stand for long ones. A text is filled up to whole blocks, its
length being the last thing in them, and each block changes a state of some
words: the state at the end is the digest. Words are natural numbers below a
power of two.

The constants of the second family are the fractional parts of roots of prime
numbers, which are calculated here.
-/

namespace Retrace.Unix.Digest

/-! ### Words -/

/-- A word turned to the left. -/
def turned (bits n x : Nat) : Nat := ((x <<< n) ||| (x >>> (bits - n))) % Nat.pow 2 bits

/-- The word with the opposite bits. -/
def opposite (bits x : Nat) : Nat := Nat.pow 2 bits - 1 - x

/-- The number that octets stand for, the first one being worth most. -/
def ofOctets (octets : List Nat) : Nat := octets.foldl (fun n o => n * 256 + o) 0

/-- The octets of a number, the one that is worth most first. -/
def toOctets (count n : Nat) : List Nat :=
  (List.range count).map fun k => n / Nat.pow 256 (count - 1 - k) % 256

/-- Pieces of a list that all have a length. -/
def pieces {α : Type} (length : Nat) : (fuel : Nat) → List α → List (List α)
  | 0, _ => []
  | n + 1, xs => if xs.isEmpty then [] else xs.take length :: pieces length n (xs.drop length)

/-- Octets in whole blocks, with a mark after them and their length in bits at the end. -/
def filled (blockSize lengthSize : Nat) (reversed : Bool) (octets : List Nat) : List (List Nat) :=
  let length := toOctets lengthSize (octets.length * 8)
  let used := (octets.length + 1 + lengthSize) % blockSize
  let all := octets ++ 0x80 :: List.replicate ((blockSize - used) % blockSize) 0 ++
    (if reversed then length.reverse else length)
  pieces blockSize (all.length / blockSize + 1) all

/-- The digits of octets in base 16. -/
def digits (octets : List Nat) : String :=
  String.ofList (octets.flatMap fun o => [Nat.digitChar (o / 16), Nat.digitChar (o % 16)])

/-! ### The first family -/

/-- The constants of the rounds. -/
def sines : Array Nat := #[
    0xd76aa478, 0xe8c7b756, 0x242070db, 0xc1bdceee, 0xf57c0faf, 0x4787c62a, 0xa8304613, 0xfd469501,
    0x698098d8, 0x8b44f7af, 0xffff5bb1, 0x895cd7be, 0x6b901122, 0xfd987193, 0xa679438e, 0x49b40821,
    0xf61e2562, 0xc040b340, 0x265e5a51, 0xe9b6c7aa, 0xd62f105d, 0x02441453, 0xd8a1e681, 0xe7d3fbc8,
    0x21e1cde6, 0xc33707d6, 0xf4d50d87, 0x455a14ed, 0xa9e3e905, 0xfcefa3f8, 0x676f02d9, 0x8d2a4c8a,
    0xfffa3942, 0x8771f681, 0x6d9d6122, 0xfde5380c, 0xa4beea44, 0x4bdecfa9, 0xf6bb4b60, 0xbebfbc70,
    0x289b7ec6, 0xeaa127fa, 0xd4ef3085, 0x04881d05, 0xd9d4d039, 0xe6db99e5, 0x1fa27cf8, 0xc4ac5665,
    0xf4292244, 0x432aff97, 0xab9423a7, 0xfc93a039, 0x655b59c3, 0x8f0ccc92, 0xffeff47d, 0x85845dd1,
    0x6fa87e4f, 0xfe2ce6e0, 0xa3014314, 0x4e0811a1, 0xf7537e82, 0xbd3af235, 0x2ad7d2bb, 0xeb86d391]

/-- By how much words are turned in the rounds. -/
def turns : Array Nat := #[7, 12, 17, 22, 5, 9, 14, 20, 4, 11, 16, 23, 6, 10, 15, 21]

/-- What a block makes of a state, in the first digest. -/
def roundsOf128 (state : Nat × Nat × Nat × Nat) (block : List Nat) : Nat × Nat × Nat × Nat :=
  let words := ((pieces 4 16 block).map fun p => ofOctets p.reverse).toArray
  let (a, b, c, d) := (List.range 64).foldl (fun (a, b, c, d) i =>
    let (f, g) :=
      if i < 16 then ((b &&& c) ||| (opposite 32 b &&& d), i)
      else if i < 32 then ((d &&& b) ||| (opposite 32 d &&& c), (5 * i + 1) % 16)
      else if i < 48 then (b ^^^ c ^^^ d, (3 * i + 5) % 16)
      else (c ^^^ (b ||| opposite 32 d), 7 * i % 16)
    let sum := (a + f + sines.getD i 0 + words.getD g 0) % Nat.pow 2 32
    (d, (b + turned 32 (turns.getD (i / 16 * 4 + i % 4) 0) sum) % Nat.pow 2 32, b, c)) state
  let (a', b', c', d') := state
  ((a + a') % Nat.pow 2 32, (b + b') % Nat.pow 2 32, (c + c') % Nat.pow 2 32, (d + d') % Nat.pow 2 32)

/-- The digest of 128 bits. -/
def of128 (octets : List Nat) : List Nat :=
  let (a, b, c, d) := (filled 64 8 true octets).foldl roundsOf128 (0x67452301, 0xefcdab89, 0x98badcfe, 0x10325476)
  [a, b, c, d].flatMap fun w => (toOctets 4 w).reverse

/-- The words of a block, and those that are made of them. -/
def schedule (bits count : Nat) (next : Array Nat → Nat → Nat) (block : List Nat) : Array Nat :=
  let first := ((pieces (bits / 8) 16 block).map ofOctets).toArray
  (List.range (count - 16)).foldl (fun ws k => ws.push (next ws (k + 16))) first

/-- What a block makes of a state, in the digest of 160 bits. -/
def roundsOf160 (state : List Nat) (block : List Nat) : List Nat :=
  let words := schedule 32 80 (fun ws i =>
    turned 32 1 (ws.getD (i - 3) 0 ^^^ ws.getD (i - 8) 0 ^^^ ws.getD (i - 14) 0 ^^^ ws.getD (i - 16) 0)) block
  match state with
  | [a', b', c', d', e'] =>
    let (a, b, c, d, e) := (List.range 80).foldl (fun (a, b, c, d, e) i =>
      let (f, k) :=
        if i < 20 then ((b &&& c) ||| (opposite 32 b &&& d), 0x5a827999)
        else if i < 40 then (b ^^^ c ^^^ d, 0x6ed9eba1)
        else if i < 60 then ((b &&& c) ||| (b &&& d) ||| (c &&& d), 0x8f1bbcdc)
        else (b ^^^ c ^^^ d, 0xca62c1d6)
      ((turned 32 5 a + f + e + k + words.getD i 0) % Nat.pow 2 32, a, turned 32 30 b, c, d)) (a', b', c', d', e')
    [(a + a') % Nat.pow 2 32, (b + b') % Nat.pow 2 32, (c + c') % Nat.pow 2 32, (d + d') % Nat.pow 2 32, (e + e') % Nat.pow 2 32]
  | _ => state

/-- The digest of 160 bits. -/
def of160 (octets : List Nat) : List Nat :=
  ((filled 64 8 false octets).foldl roundsOf160 [0x67452301, 0xefcdab89, 0x98badcfe, 0x10325476, 0xc3d2e1f0]).flatMap
    (toOctets 4)

/-! ### The second family -/

/-- The first prime numbers. -/
def primes : List Nat :=
  (List.range 410).filter fun n => 2 ≤ n && (List.range 21).all fun k => k < 2 || n ≤ k || n % k != 0

/-- The greatest number below two to a power whose own power is at most a number. -/
def root (power n : Nat) : (bits : Nat) → Nat
  | 0 => 0
  | bits + 1 =>
    (List.range (bits + 1)).foldr (fun k r => if Nat.pow (r + Nat.pow 2 k) power ≤ n then r + Nat.pow 2 k else r) 0

/-- Sixty-four bits of the fractional part of a root of a number. -/
def rootBits (power n : Nat) : Nat := root power (n * Nat.pow 2 (64 * power)) 72 % Nat.pow 2 64

/-- The constants of the rounds, in 64 bits. -/
def cubeRoots : Array Nat := ((primes.take 80).map (rootBits 3)).toArray

/-- A member of the second family: the bits of its words, the number of its rounds, by how much words are
    turned, the state at the beginning, and how many octets of the state are the digest. -/
structure Second where
  bits : Nat
  rounds : Nat
  turns : Nat × Nat × Nat × Nat × Nat × Nat × Nat × Nat × Nat × Nat × Nat × Nat
  start : List Nat
  size : Nat

namespace Second

/-- How words of 32 bits are turned. -/
def turns32 : Nat × Nat × Nat × Nat × Nat × Nat × Nat × Nat × Nat × Nat × Nat × Nat :=
  (2, 13, 22, 6, 11, 25, 7, 18, 3, 17, 19, 10)

/-- How words of 64 bits are turned. -/
def turns64 : Nat × Nat × Nat × Nat × Nat × Nat × Nat × Nat × Nat × Nat × Nat × Nat :=
  (28, 34, 39, 14, 18, 41, 1, 8, 7, 19, 61, 6)

/-- Fractional parts of the square roots of some prime numbers. -/
def squareRoots (first : Nat) : List Nat := ((primes.drop first).take 8).map (rootBits 2)

/-- The digest of 224 bits. -/
def of224 : Second := ⟨32, 64, turns32, (squareRoots 8).map (· % Nat.pow 2 32), 28⟩

/-- The digest of 256 bits. -/
def of256 : Second := ⟨32, 64, turns32, (squareRoots 0).map (· / Nat.pow 2 32), 32⟩

/-- The digest of 384 bits. -/
def of384 : Second := ⟨64, 80, turns64, squareRoots 8, 48⟩

/-- The digest of 512 bits. -/
def of512 : Second := ⟨64, 80, turns64, squareRoots 0, 64⟩

/-- What a block makes of a state. -/
def step (v : Second) (state : List Nat) (block : List Nat) : List Nat :=
  let w := v.bits
  let right (n x : Nat) : Nat := turned w (w - n) x
  let (a0, a1, a2, e0, e1, e2, s0, s1, s2, t0, t1, t2) := v.turns
  let words := schedule w v.rounds (fun ws i =>
    let x := ws.getD (i - 15) 0
    let y := ws.getD (i - 2) 0
    (ws.getD (i - 16) 0 + (right s0 x ^^^ right s1 x ^^^ (x >>> s2)) + ws.getD (i - 7) 0 +
      (right t0 y ^^^ right t1 y ^^^ (y >>> t2))) % Nat.pow 2 w) block
  let constant (i : Nat) : Nat := cubeRoots.getD i 0 / Nat.pow 2 (64 - w)
  let next := (List.range v.rounds).foldl (fun s i =>
    match s with
    | [a, b, c, d, e, f, g, h] =>
      let x := h + (right e0 e ^^^ right e1 e ^^^ right e2 e) + ((e &&& f) ^^^ (opposite w e &&& g)) + constant i +
        words.getD i 0
      let y := (right a0 a ^^^ right a1 a ^^^ right a2 a) + ((a &&& b) ^^^ (a &&& c) ^^^ (b &&& c))
      [(x + y) % Nat.pow 2 w, a, b, c, (d + x) % Nat.pow 2 w, e, f, g]
    | s => s) state
  (state.zip next).map fun (x, y) => (x + y) % Nat.pow 2 w

/-- The digest of some octets. -/
def of (v : Second) (octets : List Nat) : List Nat :=
  (((filled (v.bits * 2) (v.bits / 4) false octets).foldl v.step v.start).flatMap (toOctets (v.bits / 8))).take v.size

end Second

/-! ### The third family -/

/-- In what order the words of a block are taken in the rounds. -/
def orders : Array (Array Nat) := #[
  #[0, 1, 2, 3, 4, 5, 6, 7, 8, 9, 10, 11, 12, 13, 14, 15], #[14, 10, 4, 8, 9, 15, 13, 6, 1, 12, 0, 2, 11, 7, 5, 3],
  #[11, 8, 12, 0, 5, 2, 15, 13, 10, 14, 3, 6, 7, 1, 9, 4], #[7, 9, 3, 1, 13, 12, 11, 14, 2, 6, 5, 10, 4, 0, 15, 8],
  #[9, 0, 5, 7, 2, 4, 10, 15, 14, 1, 11, 12, 6, 8, 3, 13], #[2, 12, 6, 10, 0, 11, 8, 3, 4, 13, 7, 5, 15, 14, 1, 9],
  #[12, 5, 1, 15, 14, 13, 4, 10, 0, 7, 6, 3, 9, 2, 8, 11], #[13, 11, 7, 14, 12, 1, 3, 9, 5, 0, 15, 4, 8, 6, 2, 10],
  #[6, 15, 14, 9, 11, 3, 0, 8, 12, 2, 13, 7, 1, 4, 10, 5], #[10, 2, 8, 4, 7, 6, 1, 5, 15, 11, 9, 14, 3, 12, 13, 0]]

/-- Which words are mixed with each other in a round. -/
def mixes : List (Nat × Nat × Nat × Nat) :=
  [(0, 4, 8, 12), (1, 5, 9, 13), (2, 6, 10, 14), (3, 7, 11, 15), (0, 5, 10, 15), (1, 6, 11, 12), (2, 7, 8, 13),
    (3, 4, 9, 14)]

/-- What a block makes of a state, when so many octets have been read, in the third family. -/
def mixed (state : List Nat) (count : Nat) (isLast : Bool) (block : List Nat) : List Nat :=
  let w (n : Nat) : Nat := n % Nat.pow 2 64
  let words := ((pieces 8 16 (block ++ List.replicate (128 - block.length) 0)).map fun p => ofOctets p.reverse).toArray
  let begin := Second.squareRoots 0
  let tail := begin.zipIdx.map fun (x, i) =>
    if i = 4 then x ^^^ w count else if i = 5 then x ^^^ w (count / Nat.pow 2 64)
    else if i = 6 && isLast then opposite 64 x else x
  let right (n x : Nat) : Nat := turned 64 (64 - n) x
  let v := (List.range 12).foldl (fun (v : Array Nat) r =>
    (mixes.zipIdx).foldl (fun v ((a, b, c, d), k) =>
      let order := orders.getD (r % 10) #[]
      let x := words.getD (order.getD (2 * k) 0) 0
      let y := words.getD (order.getD (2 * k + 1) 0) 0
      let at' (v : Array Nat) (i : Nat) : Nat := v.getD i 0
      let half (v : Array Nat) (m p q : Nat) : Array Nat :=
        let v := v.setIfInBounds a (w (at' v a + at' v b + m))
        let v := v.setIfInBounds d (right p (at' v d ^^^ at' v a))
        let v := v.setIfInBounds c (w (at' v c + at' v d))
        v.setIfInBounds b (right q (at' v b ^^^ at' v c))
      half (half v x 32 24) y 16 63) v) (state ++ tail).toArray
  state.zipIdx.map fun (h, i) => h ^^^ v.getD i 0 ^^^ v.getD (i + 8) 0

/-- The digest of a number of octets of the third family. -/
def mixing (size : Nat) (octets : List Nat) : List Nat :=
  let blocks := if octets.isEmpty then [[]] else pieces 128 (octets.length / 128 + 1) octets
  let start := (Second.squareRoots 0).zipIdx.map fun (x, i) => if i = 0 then x ^^^ 0x01010000 ^^^ size else x
  let last := blocks.length - 1
  let state := blocks.zipIdx.foldl (fun s (b, k) =>
    mixed s (if k = last then octets.length else 128 * (k + 1)) (k = last) b) start
  (state.flatMap fun x => (toOctets 8 x).reverse).take size

/-! ### Sums -/

/-- What an octet makes of the remainder of a division of polynomials. -/
def divided (remainder octet : Nat) : Nat :=
  let rec go : (bits : Nat) → Nat → Nat
    | 0, r => r
    | n + 1, r => go n (if Nat.pow 2 31 ≤ r then (r * 2 % Nat.pow 2 32) ^^^ 0x04c11db7 else r * 2)
  go 8 (remainder ^^^ (octet * Nat.pow 2 24))

/-- The octets of a number, the one that is worth least first, without zeros at the end. -/
def lengthOctets : (most : Nat) → Nat → List Nat
  | 0, _ => []
  | m + 1, n => if n = 0 then [] else n % 256 :: lengthOctets m (n / 256)

/-- The sum that finds errors. -/
def cyclic (octets : List Nat) : Nat :=
  opposite 32 ((octets ++ lengthOctets 16 octets.length).foldl divided 0)

/-- The sum in which what was added before is turned. -/
def turning (octets : List Nat) : Nat :=
  octets.foldl (fun s o => (s / 2 + s % 2 * Nat.pow 2 15 + o) % Nat.pow 2 16) 0

/-- The plain sum, folded to 16 bits. -/
def plain (octets : List Nat) : Nat :=
  let s := octets.foldl (· + ·) 0 % Nat.pow 2 32
  let r := s % Nat.pow 2 16 + s / Nat.pow 2 16
  r % Nat.pow 2 16 + r / Nat.pow 2 16

end Retrace.Unix.Digest
