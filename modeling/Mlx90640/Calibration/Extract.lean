import Mlx90640.Lib.Loops
import Mlx90640.Calibration.Params
import Mathlib.Data.Fin.VecNotation

/-!
# The calibration extractors

The thirteen extractors that `MLX90640_ExtractParameters` runs before the search for
deviating pixels, each as the code computes it: a store into the record is a record
update, a loop over an array stores cell by cell into what the array held before, and the
local arrays start from whatever the stack holds (`Scratch`). A narrowing store reduces
modulo the width of its target, and a left shift of a negative value is a multiplication.
The results of the module say that each extractor is a store of values computed from the
EEPROM alone (and, for the sensitivities, from the fields extracted before).
-/
namespace Mlx90640.Calibration.Extract

open Mlx90640.Lib.Loops

/-- `(word & mask) >> shift`. -/
def bits (word mask shift : UInt16) : UInt16 := (word &&& mask) >>> shift

/-- `int16_t x = raw; if(x > max) x = x - modulus;` -/
def signedInt16 (raw : UInt16) (max modulus : Int) : Int16 :=
  let x := Int16.ofInt raw.toNat
  if x.toInt > max then Int16.ofInt (x.toInt - modulus) else x

/-- `int8_t x = raw; if(x > max) x = x - modulus;` -/
def signedInt8 (raw : UInt16) (max modulus : Int) : Int8 :=
  let x := Int8.ofInt raw.toNat
  if x.toInt > max then Int8.ofInt (x.toInt - modulus) else x

/-- The correction of a four-bit field held in an `int`. -/
def signedNibble (x : Int) : Int := if x > 7 then x - 16 else x

variable {F : Type} [Add F] [Sub F] [Mul F] [Div F] [LT F] [DecidableLT F] [CFloat F]

/-- An integer converted to `float`. -/
def ofInt (n : Int) : F := lit n

/-- `if(x > max) x = x - modulus;` on a float. -/
def foldSign (max modulus : Int) (x : F) : F := if x > ofInt max then x - ofInt modulus else x

/-- `float x = raw; if(x > max) x = x - modulus;` -/
def signedFloat (raw : UInt16) (max modulus : Int) : F := foldSign max modulus (ofInt raw.toNat)

/-- What the stack holds where an extractor's local arrays come to lie. -/
structure Scratch (F : Type) where
  rows : Fin 24 → Int
  columns : Fin 32 → Int
  temp : Fin 768 → F

def extractVDDParameters (eeData : EEPROM) (mlx90640 : ParamsMLX90640 F) : ParamsMLX90640 F :=
  let kVdd := signedInt16 (bits (eeData 51) 0xFF00 8) 127 256
  let kVdd := Int16.ofInt (32 * kVdd.toInt)
  let vdd25 := Int16.ofInt (eeData 51 &&& 0x00FF).toNat
  let vdd25 := Int16.ofInt ((vdd25.toInt - 256) * 2 ^ 5 - 8192)
  { mlx90640 with kVdd := kVdd, vdd25 := vdd25 }

def extractPTATParameters (eeData : EEPROM) (mlx90640 : ParamsMLX90640 F) : ParamsMLX90640 F :=
  let kvPTAT : F := signedFloat (bits (eeData 50) 0xFC00 10) 31 64
  let kvPTAT := kvPTAT / ofInt 4096
  let ktPTAT : F := signedFloat (eeData 50 &&& 0x03FF) 511 1024
  let ktPTAT := ktPTAT / ofInt 8
  let vPTAT25 := Int16.ofInt (eeData 49).toNat
  let alphaPTAT : F := ofInt (eeData 16 &&& 0xF000).toNat / pow2 14 + ofInt 8
  -- the local is an `int16_t`, the field a `uint16_t`
  { mlx90640 with
    kvPTAT := kvPTAT
    ktPTAT := ktPTAT
    vPTAT25 := UInt16.ofInt vPTAT25.toInt
    alphaPTAT := alphaPTAT }

def extractGainParameters (eeData : EEPROM) (mlx90640 : ParamsMLX90640 F) : ParamsMLX90640 F :=
  { mlx90640 with gainEE := signedInt16 (eeData 48) 32767 65536 }

def extractTgcParameters (eeData : EEPROM) (mlx90640 : ParamsMLX90640 F) : ParamsMLX90640 F :=
  let tgc : F := signedFloat (eeData 60 &&& 0x00FF) 127 256
  { mlx90640 with tgc := tgc / ofInt 32 }

def extractResolutionParameters (eeData : EEPROM) (mlx90640 : ParamsMLX90640 F) :
    ParamsMLX90640 F :=
  { mlx90640 with resolutionEE := (bits (eeData 56) 0x3000 12).toUInt8 }

def extractKsTaParameters (eeData : EEPROM) (mlx90640 : ParamsMLX90640 F) : ParamsMLX90640 F :=
  let ksTa : F := signedFloat (bits (eeData 60) 0xFF00 8) 127 256
  { mlx90640 with ksTa := ksTa / ofInt 8192 }

/-- The stores into `ct`, in order; the third and the fourth read earlier ones. -/
def storeCt (eeData : EEPROM) (ct : Fin 5 → Int16) : Fin 5 → Int16 :=
  let step := Int8.ofInt ((bits (eeData 63) 0x3000 12).toNat * 10)
  let ct := Function.update ct 0 (-40)
  let ct := Function.update ct 1 0
  let ct := Function.update ct 2 (Int16.ofInt (bits (eeData 63) 0x00F0 4).toNat)
  let ct := Function.update ct 3 (Int16.ofInt (bits (eeData 63) 0x0F00 8).toNat)
  let ct := Function.update ct 2 (Int16.ofInt ((ct 2).toInt * step.toInt))
  let ct := Function.update ct 3 (Int16.ofInt ((ct 2).toInt + (ct 3).toInt * step.toInt))
  Function.update ct 4 400

/-- The stores into `ksTo`: four raw bytes, the loop that signs and scales them in place,
and the constant last element. -/
def storeKsTo (eeData : EEPROM) (ksTo : Fin 5 → F) : Fin 5 → F :=
  let ksToScale := (eeData 63 &&& 0x000F).toNat + 8
  let ksToScale := 2 ^ ksToScale
  let ksTo := Function.update ksTo 0 (ofInt (eeData 61 &&& 0x00FF).toNat)
  let ksTo := Function.update ksTo 1 (ofInt (bits (eeData 61) 0xFF00 8).toNat)
  let ksTo := Function.update ksTo 2 (ofInt (eeData 62 &&& 0x00FF).toNat)
  let ksTo := Function.update ksTo 3 (ofInt (bits (eeData 62) 0xFF00 8).toNat)
  let ksTo := Nat.fold 4 (fun i h ksTo =>
    let ksTo := modifyAt ksTo ⟨i, Nat.lt_succ_of_lt h⟩ (foldSign 127 256)
    modifyAt ksTo ⟨i, Nat.lt_succ_of_lt h⟩ (· / ofInt ksToScale)) ksTo
  Function.update ksTo 4 (lit (-2 / 10000))

def extractKsToParameters (eeData : EEPROM) (mlx90640 : ParamsMLX90640 F) : ParamsMLX90640 F :=
  { mlx90640 with ct := storeCt eeData mlx90640.ct, ksTo := storeKsTo eeData mlx90640.ksTo }

def extractCPParameters (eeData : EEPROM) (mlx90640 : ParamsMLX90640 F) : ParamsMLX90640 F :=
  let alphaScale := bits (eeData 32) 0xF000 12 + 27
  let offsetSP0 := signedInt16 (eeData 58 &&& 0x03FF) 511 1024
  let offsetSP1 := signedInt16 (bits (eeData 58) 0xFC00 10) 31 64
  let offsetSP1 := Int16.ofInt (offsetSP1.toInt + offsetSP0.toInt)
  let alphaSP0 : F := signedFloat (eeData 57 &&& 0x03FF) 511 1024
  let alphaSP0 := alphaSP0 / pow2 alphaScale.toNat
  let alphaSP1 : F := signedFloat (bits (eeData 57) 0xFC00 10) 31 64
  let alphaSP1 := (ofInt 1 + alphaSP1 / ofInt 128) * alphaSP0
  let cpKta : F := signedFloat (eeData 59 &&& 0x00FF) 127 256
  let ktaScale1 := bits (eeData 56) 0x00F0 4 + 8
  let cpKv : F := signedFloat (bits (eeData 59) 0xFF00 8) 127 256
  let kvScale := bits (eeData 56) 0x0F00 8
  { mlx90640 with
    cpKta := cpKta / pow2 ktaScale1.toNat
    cpKv := cpKv / pow2 kvScale.toNat
    cpAlpha := Function.update (Function.update mlx90640.cpAlpha 0 alphaSP0) 1 alphaSP1
    cpOffset := Function.update (Function.update mlx90640.cpOffset 0 offsetSP0) 1 offsetSP1 }

def extractCILCParameters (eeData : EEPROM) (mlx90640 : ParamsMLX90640 F) : ParamsMLX90640 F :=
  let calibrationModeEE := (bits (eeData 10) 0x0800 4).toUInt8
  let calibrationModeEE := calibrationModeEE ^^^ 0x80
  let ilChessC0 : F := signedFloat (eeData 53 &&& 0x003F) 31 64
  let ilChessC0 := ilChessC0 / ofInt 16
  let ilChessC1 : F := signedFloat (bits (eeData 53) 0x07C0 6) 15 32
  let ilChessC1 := ilChessC1 / ofInt 2
  let ilChessC2 : F := signedFloat (bits (eeData 53) 0xF800 11) 15 32
  let ilChessC2 := ilChessC2 / ofInt 8
  { mlx90640 with
    calibrationModeEE := calibrationModeEE
    ilChessC := Function.update (Function.update (Function.update mlx90640.ilChessC
      0 ilChessC0) 1 ilChessC1) 2 ilChessC2 }

/-- `for(i = 0; i < words; i++)`: the four nibbles of `eeData[base + i]`, lowest first, go
to the cells `4 * i` to `4 * i + 3`. -/
def storeNibbles (eeData : EEPROM) (base words : Nat) (acc : Fin (words * 4) → Int) :
    Fin (words * 4) → Int :=
  Nat.fold words (fun i h acc =>
    let word := eeData (base + i)
    let acc := Function.update acc ⟨4 * i + 0, by omega⟩ (word &&& 0x000F).toNat
    let acc := Function.update acc ⟨4 * i + 1, by omega⟩ (bits word 0x00F0 4).toNat
    let acc := Function.update acc ⟨4 * i + 2, by omega⟩ (bits word 0x0F00 8).toNat
    Function.update acc ⟨4 * i + 3, by omega⟩ (bits word 0xF000 12).toNat) acc

/-- `for(i = 0; i < n; i++) if(acc[i] > 7) acc[i] = acc[i] - 16;` -/
def signNibbles {n : Nat} (acc : Fin n → Int) : Fin n → Int :=
  Nat.fold n (fun i h acc => modifyAt acc ⟨i, h⟩ signedNibble) acc

/-- `for(i = 0; i < 24; i++) for(j = 0; j < 32; j++)` over `p = 32 * i + j`. -/
def forPixels {α : Type} (body : (i : Fin 24) → (j : Fin 32) → (p : Fin 768) → α → α) (a : α) : α :=
  Nat.fold 24 (fun i hi a => Nat.fold 32 (fun j hj a =>
    body ⟨i, hi⟩ ⟨j, hj⟩ ⟨32 * i + j, grid_lt hi hj⟩ a) a) a

/-- `temp = g(a[0]); for(i = 1; i < 768; i++) if(g(a[i]) > temp) temp = g(a[i]);` -/
def largest (g : F → F) (a : Fin 768 → F) : F :=
  Nat.fold 767 (fun i h temp =>
    if g (a ⟨i + 1, Nat.succ_lt_succ h⟩) > temp then g (a ⟨i + 1, Nat.succ_lt_succ h⟩) else temp)
    (g (a 0))

def extractAlphaParameters (stack : Scratch F) (eeData : EEPROM) (mlx90640 : ParamsMLX90640 F) :
    ParamsMLX90640 F :=
  let accRemScale := eeData 32 &&& 0x000F
  let accColumnScale := bits (eeData 32) 0x00F0 4
  let accRowScale := bits (eeData 32) 0x0F00 8
  let alphaScale := bits (eeData 32) 0xF000 12 + 30
  let alphaRef : Int := (eeData 33).toNat
  let accRow := signNibbles (storeNibbles eeData 34 6 stack.rows)
  let accColumn := signNibbles (storeNibbles eeData 40 8 stack.columns)
  let alphaTemp := forPixels (fun i j p alphaTemp =>
    let alphaTemp := Function.update alphaTemp p (ofInt (bits (eeData (64 + p)) 0x03F0 4).toNat)
    let alphaTemp := modifyAt alphaTemp p (foldSign 31 64)
    let alphaTemp := modifyAt alphaTemp p (· * ofInt (2 ^ accRemScale.toNat))
    let alphaTemp := modifyAt alphaTemp p fun x => ofInt (alphaRef +
      accRow i * 2 ^ accRowScale.toNat + accColumn j * 2 ^ accColumnScale.toNat) + x
    let alphaTemp := modifyAt alphaTemp p (· / pow2 alphaScale.toNat)
    let alphaTemp := modifyAt alphaTemp p
      (· - mlx90640.tgc * (mlx90640.cpAlpha 0 + mlx90640.cpAlpha 1) / ofInt 2)
    modifyAt alphaTemp p (lit (1 / 1000000) / ·)) stack.temp
  -- the search for the largest element is still in the code, the loop that used it is
  -- commented out
  let _temp := largest id alphaTemp
  let alphaScale : UInt8 := 0
  let alpha := Nat.fold 768 (fun i h alpha =>
    let temp := alphaTemp ⟨i, h⟩ * pow2 alphaScale.toNat
    Function.update alpha ⟨i, h⟩ (toUInt16 (temp + lit (1 / 2)))) mlx90640.alpha
  { mlx90640 with alpha := alpha, alphaScale := alphaScale }

def extractOffsetParameters (stack : Scratch F) (eeData : EEPROM) (mlx90640 : ParamsMLX90640 F) :
    ParamsMLX90640 F :=
  let occRemScale := eeData 16 &&& 0x000F
  let occColumnScale := bits (eeData 16) 0x00F0 4
  let occRowScale := bits (eeData 16) 0x0F00 8
  let offsetRef := signedInt16 (eeData 17) 32767 65536
  let occRow := signNibbles (storeNibbles eeData 18 6 stack.rows)
  let occColumn := signNibbles (storeNibbles eeData 24 8 stack.columns)
  let offset := forPixels (fun i j p offset =>
    let offset := Function.update offset p (Int16.ofInt (bits (eeData (64 + p)) 0xFC00 10).toNat)
    let offset := modifyAt offset p fun x => if x.toInt > 31 then Int16.ofInt (x.toInt - 64) else x
    let offset := modifyAt offset p fun x => Int16.ofInt (x.toInt * 2 ^ occRemScale.toNat)
    modifyAt offset p fun x => Int16.ofInt (offsetRef.toInt + occRow i * 2 ^ occRowScale.toNat +
      occColumn j * 2 ^ occColumnScale.toNat + x.toInt)) mlx90640.offset
  { mlx90640 with offset := offset }

/-- `while(temp < 64) { temp = temp * 2; scale = scale + 1; }` for at most `fuel` tests. -/
def doubleTo64 : Nat → F → UInt8 → Option (F × UInt8)
  | 0, _, _ => none
  | fuel + 1, temp, scale =>
    if temp < ofInt 64 then doubleTo64 fuel (temp * ofInt 2) (scale + 1) else some (temp, scale)

/-- `scale = 0; if(temp > 0) while(temp < 64) ...`: the scale with which the largest
coefficient just fills an `int8_t`. -/
def fillScale (fuel : Nat) (temp : F) : Option UInt8 :=
  if temp > ofInt 0 then (doubleTo64 fuel temp 0).map Prod.snd else some 0

/-- The last loop of the two coefficient extractors: scale, round half away from zero and
narrow to `int8_t`. -/
def storeScaled (coefficients : Fin 768 → F) (scale : UInt8) (stored : Fin 768 → Int8) :
    Fin 768 → Int8 :=
  Nat.fold 768 (fun i h stored =>
    let temp := coefficients ⟨i, h⟩ * pow2 scale.toNat
    Function.update stored ⟨i, h⟩
      (if temp < ofInt 0 then toInt8 (temp - lit (1 / 2)) else toInt8 (temp + lit (1 / 2)))) stored

/-- `2*(p/32 - (p/64)*2) + p%2`: row and column parity. -/
def split (p : Nat) : Nat := 2 * (p / 32 - (p / 64) * 2) + p % 2

theorem split_lt (p : Nat) : split p < 4 := by
  unfold split
  omega

def extractKtaPixelParameters (stack : Scratch F) (fuel : Nat) (eeData : EEPROM)
    (mlx90640 : ParamsMLX90640 F) : Option (ParamsMLX90640 F) :=
  let ktaRoCo := signedInt8 (bits (eeData 54) 0xFF00 8) 127 256
  let ktaReCo := signedInt8 (eeData 54 &&& 0x00FF) 127 256
  let ktaRoCe := signedInt8 (bits (eeData 55) 0xFF00 8) 127 256
  let ktaReCe := signedInt8 (eeData 55 &&& 0x00FF) 127 256
  let ktaRC : Fin 4 → Int8 := ![ktaRoCo, ktaRoCe, ktaReCo, ktaReCe]
  let ktaScale1 := bits (eeData 56) 0x00F0 4 + 8
  let ktaScale2 := eeData 56 &&& 0x000F
  let ktaTemp := forPixels (fun _ _ p ktaTemp =>
    let ktaTemp := Function.update ktaTemp p (ofInt (bits (eeData (64 + p)) 0x000E 1).toNat)
    let ktaTemp := modifyAt ktaTemp p (foldSign 3 8)
    let ktaTemp := modifyAt ktaTemp p (· * ofInt (2 ^ ktaScale2.toNat))
    let ktaTemp := modifyAt ktaTemp p (ofInt (ktaRC ⟨split p, split_lt p⟩).toInt + ·)
    modifyAt ktaTemp p (· / pow2 ktaScale1.toNat)) stack.temp
  do
    let ktaScale1 ← fillScale fuel (largest fabs ktaTemp)
    return { mlx90640 with
      kta := storeScaled ktaTemp ktaScale1 mlx90640.kta
      ktaScale := ktaScale1 }

def extractKvPixelParameters (stack : Scratch F) (fuel : Nat) (eeData : EEPROM)
    (mlx90640 : ParamsMLX90640 F) : Option (ParamsMLX90640 F) :=
  let kvRoCo := signedInt8 (bits (eeData 52) 0xF000 12) 7 16
  let kvReCo := signedInt8 (bits (eeData 52) 0x0F00 8) 7 16
  let kvRoCe := signedInt8 (bits (eeData 52) 0x00F0 4) 7 16
  let kvReCe := signedInt8 (eeData 52 &&& 0x000F) 7 16
  let kvT : Fin 4 → Int8 := ![kvRoCo, kvRoCe, kvReCo, kvReCe]
  let kvScale := bits (eeData 56) 0x0F00 8
  let kvTemp := forPixels (fun _ _ p kvTemp =>
    let kvTemp := Function.update kvTemp p (ofInt (kvT ⟨split p, split_lt p⟩).toInt)
    modifyAt kvTemp p (· / pow2 kvScale.toNat)) stack.temp
  do
    let kvScale ← fillScale fuel (largest fabs kvTemp)
    return { mlx90640 with
      kv := storeScaled kvTemp kvScale mlx90640.kv
      kvScale := kvScale }

/-- Nibble `k` of a word, counted from the lowest. -/
def nibble (word : UInt16) : Fin 4 → UInt16
  | 0 => word &&& 0x000F
  | 1 => bits word 0x00F0 4
  | 2 => bits word 0x0F00 8
  | 3 => bits word 0xF000 12

/-- Element `k` of a nibble table that starts at word `base`. -/
def nibbleAt (eeData : EEPROM) (base k : Nat) : Int :=
  signedNibble (nibble (eeData (base + k / 4)) (Fin.ofNat 4 k)).toNat

theorem storeNibbles_eq (eeData : EEPROM) (base words : Nat) (acc : Fin (words * 4) → Int) :
    storeNibbles eeData base words acc =
      fun k : Fin (words * 4) => ((nibble (eeData (base + k / 4)) (Fin.ofNat 4 k)).toNat : Int) := by
  have hinv : ∀ k : Fin (words * 4), k.val < 4 * words → storeNibbles eeData base words acc k =
      ((nibble (eeData (base + k / 4)) (Fin.ofNat 4 k)).toNat : Int) := by
    refine fold_invariant (fun i (a : Fin (words * 4) → Int) => ∀ k, k.val < 4 * i →
      a k = ((nibble (eeData (base + k / 4)) (Fin.ofNat 4 k)).toNat : Int)) ?_ ?_
    · intro k hk
      omega
    · intro i hi a ha k hk
      by_cases hlt : k.val < 4 * i
      · -- none of the four stores of this pass reaches cell `k`
        have hne : ∀ (m : Nat) (h : 4 * i + m < words * 4), k ≠ ⟨4 * i + m, h⟩ := by
          intro m h he
          have := congrArg Fin.val he
          simp only at this
          omega
        simp only [Function.update_of_ne (hne _ _)]
        exact ha k hlt
      · obtain ⟨m, hm⟩ : ∃ m : Fin 4, k.val = 4 * i + m := ⟨⟨k.val - 4 * i, by omega⟩, by simp; omega⟩
        have hk' : 4 * i + m.val < words * 4 := hm ▸ k.isLt
        obtain rfl : k = ⟨4 * i + m, hk'⟩ := Fin.ext hm
        have hdiv : (4 * i + m.val) / 4 = i := by omega
        have hmod : Fin.ofNat 4 (4 * i + m.val) = m := by
          apply Fin.ext
          simp only [Fin.ofNat]
          omega
        simp only [hdiv, hmod]
        match m with
        | 0 | 1 | 2 | 3 => simp [Function.update, nibble]
  funext k
  exact hinv k (by omega)

theorem signNibbles_storeNibbles (eeData : EEPROM) (base words : Nat)
    (acc : Fin (words * 4) → Int) :
    signNibbles (storeNibbles eeData base words acc) =
      fun k : Fin (words * 4) => nibbleAt eeData base k := by
  rw [signNibbles, fold_modify, storeNibbles_eq]
  rfl

/-- A pixel loop whose body amounts to one store into the pixel's own cell. -/
theorem forPixels_eq {α : Type} {body : Fin 24 → Fin 32 → Fin 768 → (Fin 768 → α) → Fin 768 → α}
    (value : Fin 768 → α)
    (hbody : ∀ (p : Fin 768) a, body ⟨p / 32, by omega⟩ ⟨p % 32, by omega⟩ p a =
      Function.update a p (value p))
    (a : Fin 768 → α) : forPixels body a = value := by
  have hcell : ∀ (i : Nat) (hi : i < 24) (j : Nat) (hj : j < 32) a,
      body ⟨i, hi⟩ ⟨j, hj⟩ ⟨32 * i + j, grid_lt hi hj⟩ a =
        Function.update a ⟨32 * i + j, grid_lt hi hj⟩ (value ⟨32 * i + j, grid_lt hi hj⟩) := by
    intro i hi j hj a
    have hdiv : (32 * i + j) / 32 = i := by omega
    have hmod : (32 * i + j) % 32 = j := by omega
    rw [← hbody]
    simp only [hdiv, hmod]
  funext p
  simp only [forPixels, hcell]
  refine (fold_grid_update (r := 24) (c := 32)
    (fun i j => value ⟨32 * i + j, grid_lt i.isLt j.isLt⟩) a p (by omega) (by omega)).trans ?_
  exact congrArg value (Fin.ext (Nat.div_add_mod p.val 32))

omit [Div F] in
theorem storeScaled_eq (coefficients : Fin 768 → F) (scale : UInt8) (stored : Fin 768 → Int8) :
    storeScaled coefficients scale stored = fun p =>
      let temp := coefficients p * pow2 scale.toNat
      if temp < ofInt 0 then toInt8 (temp - lit (1 / 2)) else toInt8 (temp + lit (1 / 2)) := by
  rw [storeScaled]
  exact fold_update (fun p =>
    if coefficients p * pow2 scale.toNat < ofInt 0 then
      toInt8 (coefficients p * pow2 scale.toNat - lit (1 / 2))
    else toInt8 (coefficients p * pow2 scale.toNat + lit (1 / 2))) stored

theorem update_two {α : Type} (a : Fin 2 → α) (x y : α) :
    Function.update (Function.update a 0 x) 1 y = ![x, y] := by
  funext k
  match k with
  | 0 | 1 => rfl

theorem update_three {α : Type} (a : Fin 3 → α) (x y z : α) :
    Function.update (Function.update (Function.update a 0 x) 1 y) 2 z = ![x, y, z] := by
  funext k
  match k with
  | 0 | 1 | 2 => rfl

/-- The corner temperatures an EEPROM image encodes. -/
def ctValue (eeData : EEPROM) : Fin 5 → Int16 :=
  let step := Int8.ofInt ((bits (eeData 63) 0x3000 12).toNat * 10)
  let ct2 := Int16.ofInt ((Int16.ofInt (bits (eeData 63) 0x00F0 4).toNat).toInt * step.toInt)
  ![-40, 0, ct2,
    Int16.ofInt (ct2.toInt + (Int16.ofInt (bits (eeData 63) 0x0F00 8).toNat).toInt * step.toInt),
    400]

theorem storeCt_eq (eeData : EEPROM) (ct : Fin 5 → Int16) : storeCt eeData ct = ctValue eeData := by
  funext k
  match k with
  | 0 | 1 | 2 | 3 | 4 => rfl

def ksToValue (eeData : EEPROM) : Fin 5 → F :=
  let ksToScale := 2 ^ ((eeData 63 &&& 0x000F).toNat + 8)
  ![signedFloat (eeData 61 &&& 0x00FF) 127 256 / ofInt ksToScale,
    signedFloat (bits (eeData 61) 0xFF00 8) 127 256 / ofInt ksToScale,
    signedFloat (eeData 62 &&& 0x00FF) 127 256 / ofInt ksToScale,
    signedFloat (bits (eeData 62) 0xFF00 8) 127 256 / ofInt ksToScale,
    lit (-2 / 10000)]

omit [Add F] [Mul F] in
theorem storeKsTo_eq (eeData : EEPROM) (ksTo : Fin 5 → F) :
    storeKsTo eeData ksTo = ksToValue eeData := by
  funext k
  match k with
  | 0 | 1 | 2 | 3 | 4 => rfl

/-- `SCALEALPHA / alpha` of a pixel before the conversion to `uint16_t`. -/
def alphaValue (eeData : EEPROM) (tgc : F) (cpAlpha : Fin 2 → F) (p : Fin 768) : F :=
  let rem : F := signedFloat (bits (eeData (64 + p)) 0x03F0 4) 31 64 *
    ofInt (2 ^ (eeData 32 &&& 0x000F).toNat)
  let sum := ofInt ((eeData 33).toNat +
    nibbleAt eeData 34 (p / 32) * 2 ^ (bits (eeData 32) 0x0F00 8).toNat +
    nibbleAt eeData 40 (p % 32) * 2 ^ (bits (eeData 32) 0x00F0 4).toNat) + rem
  lit (1 / 1000000) / (sum / pow2 (bits (eeData 32) 0xF000 12 + 30).toNat -
    tgc * (cpAlpha 0 + cpAlpha 1) / ofInt 2)

def offsetValue (eeData : EEPROM) (p : Fin 768) : Int16 :=
  let x := signedInt16 (bits (eeData (64 + p)) 0xFC00 10) 31 64
  let x := Int16.ofInt (x.toInt * 2 ^ (eeData 16 &&& 0x000F).toNat)
  Int16.ofInt ((signedInt16 (eeData 17) 32767 65536).toInt +
    nibbleAt eeData 18 (p / 32) * 2 ^ (bits (eeData 16) 0x0F00 8).toNat +
    nibbleAt eeData 24 (p % 32) * 2 ^ (bits (eeData 16) 0x00F0 4).toNat + x.toInt)

theorem extractAlphaParameters_eq (stack : Scratch F) (eeData : EEPROM)
    (mlx90640 : ParamsMLX90640 F) :
    extractAlphaParameters stack eeData mlx90640 =
      { mlx90640 with
        alpha := fun p => toUInt16
          (alphaValue eeData mlx90640.tgc mlx90640.cpAlpha p * pow2 0 + lit (1 / 2))
        alphaScale := 0 } := by
  simp only [extractAlphaParameters, signNibbles_storeNibbles, modifyAt_update]
  rw [forPixels_eq (alphaValue eeData mlx90640.tgc mlx90640.cpAlpha) (fun _ _ => rfl)]
  congr 1
  exact fold_update (fun p => toUInt16
    (alphaValue eeData mlx90640.tgc mlx90640.cpAlpha p * pow2 0 + lit (1 / 2))) mlx90640.alpha

omit [Add F] [Sub F] [Mul F] [Div F] [LT F] [DecidableLT F] [CFloat F] in
theorem extractOffsetParameters_eq (stack : Scratch F) (eeData : EEPROM)
    (mlx90640 : ParamsMLX90640 F) :
    extractOffsetParameters stack eeData mlx90640 =
      { mlx90640 with offset := offsetValue eeData } := by
  simp only [extractOffsetParameters, signNibbles_storeNibbles, modifyAt_update]
  congr 1
  exact forPixels_eq (offsetValue eeData) (fun _ _ => rfl) mlx90640.offset

/-- The four row-and-column averages of the Kta coefficient. -/
def ktaRCValue (eeData : EEPROM) : Fin 4 → Int8 :=
  ![signedInt8 (bits (eeData 54) 0xFF00 8) 127 256, signedInt8 (bits (eeData 55) 0xFF00 8) 127 256,
    signedInt8 (eeData 54 &&& 0x00FF) 127 256, signedInt8 (eeData 55 &&& 0x00FF) 127 256]

def ktaValue (eeData : EEPROM) (p : Fin 768) : F :=
  (ofInt (ktaRCValue eeData ⟨split p, split_lt p⟩).toInt +
    signedFloat (bits (eeData (64 + p)) 0x000E 1) 3 8 * ofInt (2 ^ (eeData 56 &&& 0x000F).toNat)) /
    pow2 (bits (eeData 56) 0x00F0 4 + 8).toNat

def kvTValue (eeData : EEPROM) : Fin 4 → Int8 :=
  ![signedInt8 (bits (eeData 52) 0xF000 12) 7 16, signedInt8 (bits (eeData 52) 0x00F0 4) 7 16,
    signedInt8 (bits (eeData 52) 0x0F00 8) 7 16, signedInt8 (eeData 52 &&& 0x000F) 7 16]

def kvValue (eeData : EEPROM) (p : Fin 768) : F :=
  ofInt (kvTValue eeData ⟨split p, split_lt p⟩).toInt / pow2 (bits (eeData 56) 0x0F00 8).toNat

/-- A coefficient scaled by `2 ^ scale`, rounded and narrowed. -/
def roundedInt8 (scale : UInt8) (x : F) : Int8 :=
  let temp := x * pow2 scale.toNat
  if temp < ofInt 0 then toInt8 (temp - lit (1 / 2)) else toInt8 (temp + lit (1 / 2))

theorem extractKtaPixelParameters_eq (stack : Scratch F) (fuel : Nat) (eeData : EEPROM)
    (mlx90640 : ParamsMLX90640 F) :
    extractKtaPixelParameters stack fuel eeData mlx90640 =
      (fillScale fuel (largest fabs (ktaValue (F := F) eeData))).map fun scale =>
        { mlx90640 with
          kta := fun p => roundedInt8 scale (ktaValue (F := F) eeData p)
          ktaScale := scale } := by
  simp only [extractKtaPixelParameters, modifyAt_update]
  rw [forPixels_eq (ktaValue eeData) (fun _ _ => rfl)]
  simp only [storeScaled_eq]
  cases fillScale fuel (largest fabs (ktaValue (F := F) eeData)) with
  | none => rfl
  | some scale => rfl

theorem extractKvPixelParameters_eq (stack : Scratch F) (fuel : Nat) (eeData : EEPROM)
    (mlx90640 : ParamsMLX90640 F) :
    extractKvPixelParameters stack fuel eeData mlx90640 =
      (fillScale fuel (largest fabs (kvValue (F := F) eeData))).map fun scale =>
        { mlx90640 with
          kv := fun p => roundedInt8 scale (kvValue (F := F) eeData p)
          kvScale := scale } := by
  simp only [extractKvPixelParameters, modifyAt_update]
  rw [forPixels_eq (kvValue eeData) (fun _ _ => rfl)]
  simp only [storeScaled_eq]
  cases fillScale fuel (largest fabs (kvValue (F := F) eeData)) with
  | none => rfl
  | some scale => rfl

end Mlx90640.Calibration.Extract
