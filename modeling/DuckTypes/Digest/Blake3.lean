/-!
The BLAKE3 hash: chunks of 1024 bytes are compressed block by block, and the chunks'
chaining values are joined pairwise until one node is left, whose compression with the root
flag is the hash.
-/

namespace DuckTypes.Digest.Blake3

abbrev ChainingValue := Vector UInt32 8

abbrev Block := Vector UInt32 16

def initial : ChainingValue :=
  #v[0x6A09E667, 0xBB67AE85, 0x3C6EF372, 0xA54FF53A,
    0x510E527F, 0x9B05688C, 0x1F83D9AB, 0x5BE0CD19]

def chunkStart : UInt32 := 1
def chunkEnd : UInt32 := 2
def parent : UInt32 := 4
def root : UInt32 := 8

def rotateRight (x n : UInt32) : UInt32 := (x >>> n) ||| (x <<< (32 - n))

def mix (v : Vector UInt32 16) (a b c d : Fin 16) (x y : UInt32) : Vector UInt32 16 :=
  let v := v.set a (v[a] + v[b] + x)
  let v := v.set d (rotateRight (v[d] ^^^ v[a]) 16)
  let v := v.set c (v[c] + v[d])
  let v := v.set b (rotateRight (v[b] ^^^ v[c]) 12)
  let v := v.set a (v[a] + v[b] + y)
  let v := v.set d (rotateRight (v[d] ^^^ v[a]) 8)
  let v := v.set c (v[c] + v[d])
  v.set b (rotateRight (v[b] ^^^ v[c]) 7)

def mixBlock (v : Vector UInt32 16) (m : Block) : Vector UInt32 16 :=
  let v := mix v 0 4 8 12 m[0] m[1]
  let v := mix v 1 5 9 13 m[2] m[3]
  let v := mix v 2 6 10 14 m[4] m[5]
  let v := mix v 3 7 11 15 m[6] m[7]
  let v := mix v 0 5 10 15 m[8] m[9]
  let v := mix v 1 6 11 12 m[10] m[11]
  let v := mix v 2 7 8 13 m[12] m[13]
  mix v 3 4 9 14 m[14] m[15]

def permute (m : Block) : Block :=
  #v[m[2], m[6], m[3], m[10], m[7], m[0], m[4], m[13],
    m[1], m[11], m[12], m[5], m[9], m[14], m[15], m[8]]

def rounds : Nat → Vector UInt32 16 → Block → Vector UInt32 16
  | 0, v, _ => v
  | n + 1, v, m => rounds n (mixBlock v m) (permute m)

def compress (h : ChainingValue) (m : Block) (counter : UInt64) (length flags : UInt32) :
    ChainingValue :=
  let v := rounds 7
    #v[h[0], h[1], h[2], h[3], h[4], h[5], h[6], h[7],
      initial[0], initial[1], initial[2], initial[3],
      counter.toUInt32, (counter >>> 32).toUInt32, length, flags] m
  #v[v[0] ^^^ v[8], v[1] ^^^ v[9], v[2] ^^^ v[10], v[3] ^^^ v[11],
    v[4] ^^^ v[12], v[5] ^^^ v[13], v[6] ^^^ v[14], v[7] ^^^ v[15]]

def word (bytes : Array UInt8) (i : Nat) : UInt32 :=
  let byte := fun k => (bytes.getD (i + k) 0).toUInt32
  byte 0 ||| (byte 1 <<< 8) ||| (byte 2 <<< 16) ||| (byte 3 <<< 24)

def block (bytes : Array UInt8) : Block := Vector.ofFn fun i => word bytes (4 * i)

def chunkBlocks (bytes : Array UInt8) (counter : UInt64) (finish : UInt32) (start : Nat)
    (h : ChainingValue) : ChainingValue :=
  let first := if start = 0 then chunkStart else 0
  if start + 64 < bytes.size then
    chunkBlocks bytes counter finish (start + 64)
      (compress h (block (bytes.extract start (start + 64))) counter 64 first)
  else
    compress h (block (bytes.extract start bytes.size)) counter
      (bytes.size - start).toUInt32 (first ||| chunkEnd ||| finish)
termination_by bytes.size - start

def chunk (bytes : Array UInt8) (counter : UInt64) (finish : UInt32) : ChainingValue :=
  chunkBlocks bytes counter finish 0 initial

def join (left right : ChainingValue) (finish : UInt32) : ChainingValue :=
  compress initial (left ++ right) 0 64 (parent ||| finish)

def level : List ChainingValue → List ChainingValue
  | left :: right :: rest => join left right 0 :: level rest
  | rest => rest

theorem length_level : ∀ nodes : List ChainingValue, (level nodes).length = (nodes.length + 1) / 2
  | [] => rfl
  | [_] => by simp [level]
  | _ :: _ :: rest => by
    rw [level, List.length_cons, length_level rest]
    simp only [List.length_cons]
    omega

def joinAll (nodes : List ChainingValue) : ChainingValue :=
  match nodes with
  | [] => initial
  | [only] => only
  | [left, right] => join left right root
  | a :: b :: c :: rest => joinAll (level (a :: b :: c :: rest))
termination_by nodes.length
decreasing_by
  rw [length_level]
  simp only [List.length_cons]
  omega

def digest (bytes : Array UInt8) : ChainingValue :=
  if bytes.size ≤ 1024 then chunk bytes 0 root
  else
    joinAll ((List.range ((bytes.size + 1023) / 1024)).map fun i =>
      chunk (bytes.extract (1024 * i) (1024 * (i + 1))) i.toUInt64 0)

end DuckTypes.Digest.Blake3
