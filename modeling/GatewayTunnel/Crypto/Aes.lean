import GatewayTunnel.Bytes

namespace GatewayTunnel.Crypto.Aes

/-! ## The field of 256 elements -/

def double (b : UInt8) : UInt8 :=
  (b <<< 1) ^^^ if b &&& 0x80 = 0 then 0 else 0x1b

def mul (a b : UInt8) : UInt8 :=
  ((List.range 8).foldl (fun (sum, power) i =>
    (if (b >>> UInt8.ofNat i) &&& 1 = 0 then sum else sum ^^^ power, double power))
    ((0 : UInt8), a)).1

def inverse (a : UInt8) : UInt8 :=
  (List.range 7).foldl (fun (acc, square) _ =>
    let square := mul square square
    (mul acc square, square)) ((1 : UInt8), a) |>.1

def rotateLeft (b n : UInt8) : UInt8 :=
  (b <<< n) ||| (b >>> (8 - n))

def substitute (b : UInt8) : UInt8 :=
  let i := inverse b
  i ^^^ rotateLeft i 1 ^^^ rotateLeft i 2 ^^^ rotateLeft i 3 ^^^ rotateLeft i 4 ^^^ 0x63

def substitutions : Array UInt8 :=
  ((List.range 256).map fun n => substitute (UInt8.ofNat n)).toArray

def inverseSubstitutions : Array UInt8 :=
  (List.range 256).foldl (fun table n =>
    table.setIfInBounds (substitutions.getD n 0).toNat (UInt8.ofNat n)) (Array.replicate 256 0)

/-! ## Key schedule -/

def expandWords (size : Nat) : (count : Nat) → (i : Nat) → (constant : UInt8) → List Bytes →
    List Bytes
  | 0, _, _, ws => ws
  | count + 1, i, constant, ws =>
    let last := ws.headD []
    let base := ws.getD (size - 1) []
    let sub (w : Bytes) : Bytes := w.map fun b => substitutions.getD b.toNat 0
    if i % size = 0 then
      let turned := sub (last.drop 1 ++ last.take 1)
      let mixed := Bytes.xor turned [constant, 0, 0, 0]
      expandWords size count (i + 1) (double constant) (Bytes.xor base mixed :: ws)
    else if 6 < size ∧ i % size = 4 then
      expandWords size count (i + 1) constant (Bytes.xor base (sub last) :: ws)
    else
      expandWords size count (i + 1) constant (Bytes.xor base last :: ws)

def roundKeys (key : Bytes) : List Bytes :=
  let size := key.length / 4
  let count := 4 * (size + 7)
  let ws := expandWords size (count - size) size 1 (Bytes.pieces 4 key).reverse
  Bytes.pieces 16 ws.reverse.flatten

/-! ## Rounds -/

def permute (positions : List Nat) (block : Bytes) : Bytes :=
  let a := block.toArray
  positions.map fun i => a.getD i 0

def shiftRows : Bytes → Bytes :=
  permute [0, 5, 10, 15, 4, 9, 14, 3, 8, 13, 2, 7, 12, 1, 6, 11]

def unshiftRows : Bytes → Bytes :=
  permute [0, 13, 10, 7, 4, 1, 14, 11, 8, 5, 2, 15, 12, 9, 6, 3]

def mixColumn (a b c d : UInt8) : Bytes → Bytes
  | [w, x, y, z] =>
    [mul a w ^^^ mul b x ^^^ mul c y ^^^ mul d z, mul d w ^^^ mul a x ^^^ mul b y ^^^ mul c z,
      mul c w ^^^ mul d x ^^^ mul a y ^^^ mul b z, mul b w ^^^ mul c x ^^^ mul d y ^^^ mul a z]
  | column => column

def mixColumns (a b c d : UInt8) (block : Bytes) : Bytes :=
  (Bytes.pieces 4 block).flatMap (mixColumn a b c d)

def encryptRounds : List Bytes → Bytes → Bytes
  | [], block => block
  | [key], block => Bytes.xor key (shiftRows (block.map fun b => substitutions.getD b.toNat 0))
  | key :: keys, block =>
    let block := shiftRows (block.map fun b => substitutions.getD b.toNat 0)
    encryptRounds keys (Bytes.xor key (mixColumns 2 3 1 1 block))

def encryptBlock (keys : List Bytes) (block : Bytes) : Bytes :=
  match keys with
  | [] => block
  | first :: rest => encryptRounds rest (Bytes.xor first block)

def decryptRounds : List Bytes → Bytes → Bytes
  | [], block => block
  | [key], block =>
    Bytes.xor key ((unshiftRows block).map fun b => inverseSubstitutions.getD b.toNat 0)
  | key :: keys, block =>
    let block := (unshiftRows block).map fun b => inverseSubstitutions.getD b.toNat 0
    decryptRounds keys (mixColumns 14 11 13 9 (Bytes.xor key block))

def decryptBlock (keys : List Bytes) (block : Bytes) : Bytes :=
  match keys.reverse with
  | [] => block
  | last :: rest => decryptRounds rest (Bytes.xor last block)

/-! ## Modes -/

def blockSize : Nat := 16

def counterMode (keys : List Bytes) (width : Nat) (start data : Bytes) : Bytes :=
  let fixed := start.take (blockSize - width)
  let first := Bytes.toNat (start.drop (blockSize - width))
  ((Bytes.pieces blockSize data).zipIdx.map fun (piece, i) =>
    Bytes.xor piece (encryptBlock keys (fixed ++ Bytes.ofNat width (first + i)))).flatten

def chainedBlocks (keys : List Bytes) (before : Bytes) : List Bytes → Bytes
  | [] => []
  | block :: rest =>
    Bytes.xor before (decryptBlock keys block) ++ chainedBlocks keys block rest

def unchain (key initial data : Bytes) : Bytes :=
  chainedBlocks (roundKeys key) initial (Bytes.pieces blockSize data)

def counter (key start data : Bytes) : Bytes :=
  counterMode (roundKeys key) blockSize start data

/-! ## Authentication -/

def mulTag (x y : Nat) : Nat :=
  ((List.range 128).foldl (fun (sum, v) i =>
    (if x.testBit (127 - i) then sum ^^^ v else sum,
      if v.testBit 0 then (v >>> 1) ^^^ (0xe1 <<< 120) else v >>> 1)) (0, y)).1

def filled (bs : Bytes) : Bytes :=
  bs ++ List.replicate ((blockSize - bs.length % blockSize) % blockSize) 0

def tag (keys : List Bytes) (start data : Bytes) : Bytes :=
  let h := Bytes.toNat (encryptBlock keys (List.replicate blockSize 0))
  let text := filled data ++ Bytes.ofNat 8 0 ++ Bytes.ofNat 8 (data.length * 8)
  let sum := (Bytes.pieces blockSize text).foldl (fun acc b => mulTag (acc ^^^ b.toNat) h) 0
  Bytes.xor (Bytes.ofNat blockSize sum) (encryptBlock keys (start ++ Bytes.ofNat 4 1))

def openTagged (key start data expected : Bytes) : Option Bytes :=
  let keys := roundKeys key
  if tag keys start data = expected then
    some (counterMode keys 4 (start ++ Bytes.ofNat 4 2) data)
  else none

end GatewayTunnel.Crypto.Aes
