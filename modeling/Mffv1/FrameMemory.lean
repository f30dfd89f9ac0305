import Mathlib.Data.List.Basic
import Mffv1.SliceWindow

/-!
# Samples in memory

The bytes of the buffers that planes lie in, several planes in one buffer if their caller
has put them there. A decoder only writes rows of samples to it, so that what it does to a
frame is a list of rows.
-/
namespace Mffv1

abbrev FrameMemory := (buffer : Nat) → (address : Int) → UInt8

namespace PlaneWindow

def rowAddress (window : PlaneWindow) (y : Nat) : Int :=
  window.start + window.offset + y * window.strideBytes

def sampleAddress (window : PlaneWindow) (x y : Nat) : Int :=
  window.rowAddress y + x * bytesPerSample window.sampleFormat

end PlaneWindow

/-- A slice window: one window a plane. -/
def planeWindow (windows : List PlaneWindow) (planeIndex : Nat) : PlaneWindow :=
  windows.getD planeIndex {}

/-- `row_u8` and `row_u16`; `none` is a null pointer. -/
def rowOfFormat (format : SampleFormat) (windows : List PlaneWindow) (planeIndex y : Nat) :
    Option Int :=
  let window := planeWindow windows planeIndex
  if windows.length ≤ planeIndex ∨ window.height.toNat ≤ y ∨ window.sampleFormat ≠ format then none
  else some (window.rowAddress y)

namespace FrameMemory

def loadUInt16 (memory : FrameMemory) (buffer : Nat) (address : Int) : UInt16 :=
  (memory buffer address).toUInt16 + (memory buffer (address + 1)).toUInt16 <<< 8

def loadSample (memory : FrameMemory) (format : SampleFormat) (buffer : Nat) (address : Int) :
    UInt16 :=
  match format with
  | .uint8 => (memory buffer address).toUInt16
  | .uint16 => memory.loadUInt16 buffer address

/-- The sample of a window at a position. -/
def sampleAt (memory : FrameMemory) (window : PlaneWindow) (x y : Nat) : UInt16 :=
  memory.loadSample window.sampleFormat window.buffer (window.sampleAddress x y)

def storeByte (memory : FrameMemory) (buffer : Nat) (address : Int) (byte : UInt8) :
    FrameMemory :=
  fun bank a => if bank = buffer ∧ a = address then byte else memory bank a

def storeSample (memory : FrameMemory) (format : SampleFormat) (buffer : Nat) (address : Int)
    (sample : UInt16) : FrameMemory :=
  match format with
  | .uint8 => memory.storeByte buffer address sample.toUInt8
  | .uint16 => (memory.storeByte buffer address sample.toUInt8).storeByte buffer
      (address + 1) (sample >>> 8).toUInt8

def storeSamples (format : SampleFormat) (buffer : Nat) :
    (address : Int) → List UInt16 → FrameMemory → FrameMemory
  | _, [], memory => memory
  | address, sample :: samples, memory =>
    storeSamples format buffer (address + bytesPerSample format) samples
      (memory.storeSample format buffer address sample)

end FrameMemory

/-- A row of samples that a slice decoder writes to its window. -/
structure RowStore where
  planeIndex : Nat
  y : Nat
  row : List UInt16
  deriving DecidableEq

def RowStore.apply (windows : List PlaneWindow) (memory : FrameMemory) (store : RowStore) :
    FrameMemory :=
  let window := planeWindow windows store.planeIndex
  FrameMemory.storeSamples window.sampleFormat window.buffer (window.rowAddress store.y)
    store.row memory

def applyStores (windows : List PlaneWindow) (stores : List RowStore) (memory : FrameMemory) :
    FrameMemory :=
  stores.foldl (RowStore.apply windows) memory

end Mffv1
