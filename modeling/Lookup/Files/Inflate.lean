import Lookup.Text.Encoding

/-!
# Inflating

Deflated bytes are a sequence of bits, the lowest one of each byte first. They fall into blocks. A
block holds bytes as they are, or symbols of two canonical prefix codes: one for bytes and for the
lengths of repeated parts, the other one for the distances to them. The bits may end too early, or stand
for nothing; the bytes up to there are known.

## Main definitions

* `Halt` — why reading bits halts
* `bitsOf`, `takeNumber` — bytes as bits, and numbers read from them
* `Code`, `Code.ofLengths`, `Code.take` — canonical prefix codes
* `takeBlock` — the bytes of a block
* `inflate` — the bytes that deflated bytes stand for
-/

namespace Lookup.Files

open Text

/-! ### Bits -/

/-- Why reading bits halts. -/
inductive Halt where
  /-- There are no more bits. -/
  | ended
  /-- The bits stand for nothing. -/
  | corrupt
  deriving DecidableEq, Repr

/-- The lowest bits of a number, the lowest one first. -/
def lowBits : Nat → Nat → List Bool
  | 0, _ => []
  | count + 1, n => (n % 2 == 1) :: lowBits count (n / 2)

/-- The bits of bytes, the lowest one of each byte first. -/
def bitsOf (bytes : Bytes) : List Bool := bytes.flatMap fun b => lowBits 8 b.toNat

/-- A number of so many bits, the lowest one first, and the bits behind it. -/
def takeNumber : Nat → List Bool → Except Halt (Nat × List Bool)
  | 0, bits => .ok (0, bits)
  | _ + 1, [] => .error .ended
  | count + 1, bit :: bits =>
    (takeNumber count bits).map fun (n, rest) => (bit.toNat + 2 * n, rest)

/-- The bits from the next whole byte on. -/
def alignBits (bits : List Bool) : List Bool := bits.drop (bits.length % 8)

/-! ### Prefix codes -/

/-- A canonical prefix code: how many words it has of each length from one on, and the symbols in the
order of their words. -/
structure Code where
  counts : List Nat
  symbols : Array Nat

/-- The longest words of a code. -/
def wordLimit : Nat := 15

/-- The code in which each symbol, counted from zero, has a word of the length given for it; zero means
that it has none. -/
def Code.ofLengths (lengths : List Nat) : Code :=
  let ofLength (n : Nat) : List Nat :=
    (lengths.zipIdx.filter fun entry => entry.1 = n).map (·.2)
  let symbols := (List.range wordLimit).map fun n => ofLength (n + 1)
  ⟨symbols.map List.length, symbols.flatten.toArray⟩

/-- How many words of the greatest length are left, where `free` words of the length before are. There is
no such number if there are more words than there can be. -/
def wordsLeft? : List Nat → Nat → Option Nat
  | [], free => some free
  | count :: counts, free =>
    if 2 * free < count then none else wordsLeft? counts (2 * free - count)

/-- Whether every long enough sequence of bits begins with a word of a code. -/
def Code.isComplete (code : Code) : Bool := wordsLeft? code.counts 1 = some 0

/-- Whether a code has at most one word, which is of a single bit. -/
def Code.isSingle (code : Code) : Bool :=
  code.symbols.size ≤ 1 && (code.counts.drop 1).all fun count => count = 0

/-- The place of the next word among the words, where words of the lengths before have been passed:
`word` is what has been read of it, `first` the first word of this length, and `passed` the number of
shorter ones. -/
def takeWord : List Nat → Nat → Nat → Nat → List Bool → Except Halt (Nat × List Bool)
  | [], _, _, _, _ => .error .corrupt
  | _ :: _, _, _, _, [] => .error .ended
  | count :: counts, word, first, passed, bit :: bits =>
    let word := 2 * word + bit.toNat
    let first := 2 * first
    -- Words of one length are consecutive numbers.
    if word < first + count then .ok (passed + (word - first), bits)
    else takeWord counts word (first + count) (passed + count) bits

/-- The next symbol, and the bits behind it. -/
def Code.take (code : Code) (bits : List Bool) : Except Halt (Nat × List Bool) :=
  -- A code with one word only is not complete; the other bit is no word.
  let counts := if code.isSingle then code.counts.take 1 else code.counts
  match takeWord counts 0 0 0 bits with
  | .error halt => .error halt
  | .ok (place, rest) =>
    match code.symbols[place]? with
    | none => .error .corrupt
    | some symbol => .ok (symbol, rest)

/-! ### Symbols -/

/-- The least value of a symbol and the number of further bits that are added to it. -/
abbrev Range := Nat × Nat

/-- The lengths of repeated parts. -/
def lengthRanges : Array Range :=
  #[(3, 0), (4, 0), (5, 0), (6, 0), (7, 0), (8, 0), (9, 0), (10, 0), (11, 1), (13, 1), (15, 1),
    (17, 1), (19, 2), (23, 2), (27, 2), (31, 2), (35, 3), (43, 3), (51, 3), (59, 3), (67, 4),
    (83, 4), (99, 4), (115, 4), (131, 5), (163, 5), (195, 5), (227, 5), (258, 0)]

/-- The distances to repeated parts. -/
def distanceRanges : Array Range :=
  #[(1, 0), (2, 0), (3, 0), (4, 0), (5, 1), (7, 1), (9, 2), (13, 2), (17, 3), (25, 3), (33, 4),
    (49, 4), (65, 5), (97, 5), (129, 6), (193, 6), (257, 7), (385, 7), (513, 8), (769, 8),
    (1025, 9), (1537, 9), (2049, 10), (3073, 10), (4097, 11), (6145, 11), (8193, 12), (12289, 12),
    (16385, 13), (24577, 13)]

/-- A value of the range that a symbol stands for. -/
def takeValue (ranges : Array Range) (symbol : Nat) (bits : List Bool) :
    Except Halt (Nat × List Bool) :=
  match ranges[symbol]? with
  | none => .error .corrupt
  | some (least, extra) => (takeNumber extra bits).map fun (more, rest) => (least + more, rest)

/-- The symbol that ends a block. -/
def endSymbol : Nat := 256

/-- The length of a repeated part and the distance to it, where the symbol of the length is known. -/
def takeRepeat (distances : Code) (symbol : Nat) (bits : List Bool) :
    Except Halt (Nat × Nat × List Bool) := do
  let (length, bits) ← takeValue lengthRanges (symbol - endSymbol - 1) bits
  let (symbol, bits) ← distances.take bits
  let (distance, bits) ← takeValue distanceRanges symbol bits
  pure (length, distance, bits)

/-- Bytes with so many of them, from a distance back on, repeated. -/
def repeatBytes? (distance : Nat) : Nat → Array UInt8 → Option (Array UInt8)
  | 0, bytes => some bytes
  | count + 1, bytes =>
    if distance = 0 ∨ bytes.size < distance then none
    else (bytes[bytes.size - distance]?).bind fun b => repeatBytes? distance count (bytes.push b)

/-- What comes of reading bytes: the bytes, and the bits behind them or why reading halts. -/
abbrev Unpacked := Array UInt8 × Except Halt (List Bool)

/-- Bytes with those of at most `fuel` symbols behind them, up to the end of the block. -/
def takeSymbols (literals distances : Code) : Nat → Array UInt8 → List Bool → Unpacked
  | 0, bytes, _ => (bytes, .error .corrupt)
  | fuel + 1, bytes, bits =>
    match literals.take bits with
    | .error halt => (bytes, .error halt)
    | .ok (symbol, bits) =>
      if symbol < endSymbol then
        takeSymbols literals distances fuel (bytes.push (UInt8.ofNat symbol)) bits
      else if symbol = endSymbol then (bytes, .ok bits)
      else
        -- A length and a distance stand for bytes that have come before.
        match takeRepeat distances symbol bits with
        | .error halt => (bytes, .error halt)
        | .ok (length, distance, bits) =>
          match repeatBytes? distance length bytes with
          | none => (bytes, .error .corrupt)
          | some bytes => takeSymbols literals distances fuel bytes bits

/-! ### Blocks -/

/-- The code of literals and lengths that is known beforehand. -/
def knownLiterals : Code :=
  .ofLengths (List.replicate 144 8 ++ List.replicate 112 9 ++ List.replicate 24 7 ++
    List.replicate 8 8)

/-- The code of distances that is known beforehand. Two of its words stand for nothing. -/
def knownDistances : Code := .ofLengths (List.replicate 32 5)

/-- The order in which the lengths of the words for lengths are written. -/
def lengthOrder : List Nat :=
  [16, 17, 18, 0, 8, 7, 9, 6, 10, 5, 11, 4, 12, 3, 13, 2, 14, 1, 15]

/-- So many numbers of three bits. -/
def takeShort : Nat → List Bool → Except Halt (List Nat × List Bool)
  | 0, bits => .ok ([], bits)
  | count + 1, bits => do
    let (n, bits) ← takeNumber 3 bits
    let (others, bits) ← takeShort count bits
    pure (n :: others, bits)

/-- The lengths of words, of which `wanted` are still to come; `last?` is the one before. -/
def takeLengths (code : Code) :
    Nat → Nat → Option Nat → List Bool → Except Halt (List Nat × List Bool)
  | 0, _, _, _ => .error .corrupt
  | fuel + 1, wanted, last?, bits =>
    if wanted = 0 then .ok ([], bits)
    else do
      let (symbol, bits) ← code.take bits
      let ((value?, count), bits) ←
        if symbol < 16 then .ok ((some symbol, 1), bits)
        else if symbol = 16 then (takeNumber 2 bits).map fun (n, bits) => ((last?, n + 3), bits)
        else if symbol = 17 then (takeNumber 3 bits).map fun (n, bits) => ((some 0, n + 3), bits)
        else (takeNumber 7 bits).map fun (n, bits) => ((some 0, n + 11), bits)
      match value? with
      | none => .error .corrupt
      | some value =>
        if wanted < count then .error .corrupt
        else
          let (others, bits) ← takeLengths code fuel (wanted - count) (some value) bits
          pure (List.replicate count value ++ others, bits)

/-- The most symbols for literals and lengths in a block that describes its codes. -/
def literalLimit : Nat := 286

/-- The most symbols for distances in a block that describes its codes. -/
def distanceLimit : Nat := 30

/-- The two codes of a block that describes them. -/
def takeCodes (bits : List Bool) : Except Halt (Code × Code × List Bool) := do
  let (literals, bits) ← takeNumber 5 bits
  let (distances, bits) ← takeNumber 5 bits
  let (count, bits) ← takeNumber 4 bits
  let literals := literals + 257
  let distances := distances + 1
  if literalLimit < literals ∨ distanceLimit < distances then .error .corrupt
  else
    let (short, bits) ← takeShort (count + 4) bits
    let order := lengthOrder.zip short
    let code := Code.ofLengths ((List.range 19).map fun n => (order.lookup n).getD 0)
    if !code.isComplete then .error .corrupt
    else
      let wanted := literals + distances
      let (lengths, bits) ← takeLengths code (wanted + 1) wanted none bits
      let first := Code.ofLengths (lengths.take literals)
      let second := Code.ofLengths (lengths.drop literals)
      -- A block needs a word for its end.
      if (lengths[endSymbol]?).getD 0 = 0 ∨ !(first.isComplete || first.isSingle) ∨
          !(second.isComplete || second.isSingle) then .error .corrupt
      else pure (first, second, bits)

/-- Bytes with so many further ones behind them, as they are. -/
def takeBytes : Nat → Array UInt8 → List Bool → Unpacked
  | 0, bytes, bits => (bytes, .ok bits)
  | count + 1, bytes, bits =>
    match takeNumber 8 bits with
    | .error halt => (bytes, .error halt)
    | .ok (b, bits) => takeBytes count (bytes.push (UInt8.ofNat b)) bits

/-- The length of a block that holds bytes as they are. It is written twice, the second time with its bits
turned over. -/
def takeLength (bits : List Bool) : Except Halt (Nat × List Bool) := do
  let (length, bits) ← takeNumber 16 (alignBits bits)
  let (complement, bits) ← takeNumber 16 bits
  if length + complement = 0xFFFF then pure (length, bits) else .error .corrupt

/-- Bytes with those of a block of the given kind behind them. -/
def takeBlock (kind : Nat) (bytes : Array UInt8) (bits : List Bool) : Unpacked :=
  match kind with
  | 0 =>
    match takeLength bits with
    | .error halt => (bytes, .error halt)
    | .ok (length, bits) => takeBytes length bytes bits
  | 1 => takeSymbols knownLiterals knownDistances (bits.length + 1) bytes bits
  | 2 =>
    match takeCodes bits with
    | .error halt => (bytes, .error halt)
    | .ok (literals, distances, bits) =>
      takeSymbols literals distances (bits.length + 1) bytes bits
  | _ => (bytes, .error .corrupt)

/-- Whether the next block is the last one, and its kind. -/
def takeHeader (bits : List Bool) : Except Halt (Bool × Nat × List Bool) := do
  let (last, bits) ← takeNumber 1 bits
  let (kind, bits) ← takeNumber 2 bits
  pure (last = 1, kind, bits)

/-- Bytes with those of at most `fuel` blocks behind them, up to the last block. -/
def takeBlocks : Nat → Array UInt8 → List Bool → Unpacked
  | 0, bytes, _ => (bytes, .error .corrupt)
  | fuel + 1, bytes, bits =>
    match takeHeader bits with
    | .error halt => (bytes, .error halt)
    | .ok (last, kind, bits) =>
      match takeBlock kind bytes bits with
      | (bytes, .error halt) => (bytes, .error halt)
      | (bytes, .ok bits) => if last then (bytes, .ok bits) else takeBlocks fuel bytes bits

/-- The bytes that deflated bytes stand for, and why there are no more if the last block is not reached or
not complete. -/
def inflate (bytes : Bytes) : Bytes × Option Halt :=
  let bits := bitsOf bytes
  match takeBlocks (bits.length + 1) #[] bits with
  | (unpacked, .ok _) => (unpacked.toList, none)
  | (unpacked, .error halt) => (unpacked.toList, some halt)

end Lookup.Files
