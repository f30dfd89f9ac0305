import Mffv1.FrameMemory
import Mffv1.Lib.Patch
import Mffv1.SliceTiling

/-!
# Rows of samples in memory

What a stored row changes, and what is read back of it. The windows of a slice
address rectangles of their planes, so that rows of disjoint rectangles do not meet.
-/
namespace Mffv1

theorem bytesPerSample_pos (format : SampleFormat) : 0 < bytesPerSample format := by
  cases format <;> decide

/-- The little-endian bytes of a sample. -/
def SampleFormat.encode (format : SampleFormat) (sample : UInt16) : Bytes :=
  match format with
  | .uint8 => [sample.toUInt8]
  | .uint16 => [sample.toUInt8, (sample >>> 8).toUInt8]

@[simp] theorem SampleFormat.encode_length (format : SampleFormat) (sample : UInt16) :
    (format.encode sample).length = bytesPerSample format := by
  cases format <;> rfl

def SampleFormat.encodeRow (format : SampleFormat) (row : List UInt16) : Bytes :=
  row.flatMap format.encode

@[simp] theorem SampleFormat.encodeRow_length (format : SampleFormat) (row : List UInt16) :
    (format.encodeRow row).length = row.length * bytesPerSample format := by
  induction row with
  | nil => simp [encodeRow]
  | cons sample row ih =>
    rw [encodeRow, List.flatMap_cons, List.length_append, ← encodeRow, ih, encode_length,
      List.length_cons]
    ring

/-- The write of a row. -/
def rowPatch (format : SampleFormat) (buffer : Nat) (address : Int) (row : List UInt16) :
    Patch Nat Int UInt8 := fun bank a =>
  if bank = buffer ∧ address ≤ a then (format.encodeRow row)[(a - address).toNat]? else none

/-- The addresses of `size` bytes of a buffer. -/
def byteRange (buffer : Nat) (address : Int) (size : Nat) (bank : Nat) (a : Int) : Prop :=
  bank = buffer ∧ address ≤ a ∧ a < address + size

theorem rowPatch_within (format : SampleFormat) (buffer : Nat) (address : Int)
    (row : List UInt16) : (rowPatch format buffer address row).Within
      (byteRange buffer address (row.length * bytesPerSample format)) := by
  intro bank a h
  unfold rowPatch at h
  split at h
  · rename_i hplace
    have hlt : (a - address).toNat < (format.encodeRow row).length := by
      by_contra hge
      exact h (List.getElem?_eq_none (Nat.not_lt.mp hge))
    rw [SampleFormat.encodeRow_length] at hlt
    exact ⟨hplace.1, hplace.2, by omega⟩
  · exact absurd rfl h

namespace FrameMemory

theorem rowPatch_from {format : SampleFormat} {buffer bank : Nat} {address a : Int}
    (row : List UInt16) (h : bank = buffer ∧ address ≤ a) :
    rowPatch format buffer address row bank a = (format.encodeRow row)[(a - address).toNat]? :=
  if_pos h

theorem rowPatch_outside {format : SampleFormat} {buffer bank : Nat} {address a : Int}
    (row : List UInt16) (h : ¬(bank = buffer ∧ address ≤ a)) :
    rowPatch format buffer address row bank a = none :=
  if_neg h

theorem encodeRow_single (format : SampleFormat) (sample : UInt16) :
    format.encodeRow [sample] = format.encode sample := by
  simp [SampleFormat.encodeRow]

theorem storeByte_apply (buffer : Nat) (address : Int) (byte : UInt8) (memory : FrameMemory)
    (bank : Nat) (a : Int) : memory.storeByte buffer address byte bank a =
      if bank = buffer ∧ a = address then byte else memory bank a := rfl

theorem storeSample_apply (format : SampleFormat) (buffer : Nat) (address : Int)
    (sample : UInt16) (memory : FrameMemory) :
    memory.storeSample format buffer address sample =
      (rowPatch format buffer address [sample]).apply memory := by
  funext bank a
  unfold Patch.apply
  by_cases hplace : bank = buffer ∧ address ≤ a
  · obtain ⟨rfl, hle⟩ := hplace
    obtain ⟨k, rfl⟩ := Int.le.dest hle
    rw [rowPatch_from [sample] ⟨rfl, hle⟩, encodeRow_single, add_sub_cancel_left, Int.toNat_natCast]
    cases format with
    | uint8 =>
      unfold storeSample SampleFormat.encode
      simp only [storeByte_apply, true_and]
      cases k with
      | zero => simp
      | succ k => simp; omega
    | uint16 =>
      unfold storeSample SampleFormat.encode
      simp only [storeByte_apply, true_and]
      match k with
      | 0 => simp
      | 1 => simp
      | k + 2 =>
        rw [if_neg (by push_cast; omega), if_neg (by push_cast; omega)]
        rfl
  · rw [rowPatch_outside _ hplace]
    cases format with
    | uint8 => exact if_neg fun h => hplace ⟨h.1, h.2.ge⟩
    | uint16 =>
      simp only [storeSample, storeByte_apply]
      rw [if_neg fun h => hplace ⟨h.1, by omega⟩, if_neg fun h => hplace ⟨h.1, h.2.ge⟩]
      rfl

theorem rowPatch_cons (format : SampleFormat) (buffer : Nat) (address : Int) (sample : UInt16)
    (row : List UInt16) : rowPatch format buffer address (sample :: row) =
      (rowPatch format buffer address [sample]).andThen
        (rowPatch format buffer (address + bytesPerSample format) row) := by
  have hencode : format.encodeRow (sample :: row) =
      format.encode sample ++ format.encodeRow row := by
    simp [SampleFormat.encodeRow]
  have hlength := SampleFormat.encode_length format sample
  funext bank a
  unfold Patch.andThen
  by_cases hplace : bank = buffer ∧ address ≤ a
  · rw [rowPatch_from _ hplace, rowPatch_from _ hplace, hencode, encodeRow_single]
    by_cases hrest : address + bytesPerSample format ≤ a
    · rw [rowPatch_from _ ⟨hplace.1, hrest⟩, List.getElem?_append_right (by omega), hlength,
        List.getElem?_eq_none (l := format.encode sample) (by omega), Option.or_none]
      congr 1
      omega
    · rw [rowPatch_outside row fun h => hrest h.2, Option.none_or]
      exact List.getElem?_append_left (by omega)
  · rw [rowPatch_outside _ hplace, rowPatch_outside _ hplace,
      rowPatch_outside _ fun h => hplace ⟨h.1, by omega⟩]
    rfl

theorem storeSamples_apply (format : SampleFormat) (buffer : Nat) (address : Int)
    (row : List UInt16) (memory : FrameMemory) :
    storeSamples format buffer address row memory =
      (rowPatch format buffer address row).apply memory := by
  induction row generalizing address memory with
  | nil =>
    funext bank a
    simp [storeSamples, rowPatch, Patch.apply, SampleFormat.encodeRow]
  | cons sample row ih =>
    rw [storeSamples, ih, storeSample_apply, rowPatch_cons format buffer address sample row,
      Patch.apply_andThen]

theorem toUInt8_toUInt16 (sample : UInt16) (h : sample.toNat < 256) :
    sample.toUInt8.toUInt16 = sample := by
  apply UInt16.toNat_inj.mp
  simp [Nat.mod_eq_of_lt h]

theorem bytes_toUInt16 (sample : UInt16) :
    sample.toUInt8.toUInt16 + (sample >>> 8).toUInt8.toUInt16 <<< 8 = sample := by
  apply UInt16.toNat_inj.mp
  have hlt := sample.toNat_lt
  have hshift : (8 : UInt16).toNat % 16 = 8 := rfl
  simp only [UInt16.toNat_add, UInt8.toNat_toUInt16, UInt16.toNat_toUInt8, UInt16.toNat_shiftLeft,
    UInt16.toNat_shiftRight, hshift, Nat.shiftLeft_eq, Nat.shiftRight_eq_div_pow]
  omega

/-- A sample of the format: a byte format keeps one byte. -/
def Fits (format : SampleFormat) (sample : UInt16) : Prop :=
  format = .uint8 → sample.toNat < 256

/-- What is left of a sample that is stored. -/
def keep (format : SampleFormat) (sample : UInt16) : UInt16 :=
  match format with
  | .uint8 => sample.toUInt8.toUInt16
  | .uint16 => sample

theorem keep_of_fits {format : SampleFormat} {sample : UInt16} (h : Fits format sample) :
    keep format sample = sample := by
  cases format with
  | uint8 => exact toUInt8_toUInt16 sample (h rfl)
  | uint16 => rfl

theorem loadSample_storeSample (format : SampleFormat) (buffer : Nat) (address : Int)
    (sample : UInt16) (memory : FrameMemory) :
    (memory.storeSample format buffer address sample).loadSample format buffer address =
      keep format sample := by
  cases format with
  | uint8 => simp [loadSample, storeSample, storeByte, keep]
  | uint16 =>
    simp only [loadSample, loadUInt16, storeSample, storeByte_apply, true_and, if_true]
    rw [if_neg (by simp)]
    exact bytes_toUInt16 sample

/-- A sample that is read tells its bytes. -/
theorem bytes_of_loadSample {left right : FrameMemory} {format : SampleFormat} {buffer : Nat}
    {address : Int}
    (h : left.loadSample format buffer address = right.loadSample format buffer address) {a : Int}
    (hlow : address ≤ a) (hhigh : a < address + bytesPerSample format) :
    left buffer a = right buffer a := by
  cases format with
  | uint8 =>
    obtain rfl : a = address := by
      simp only [bytesPerSample] at hhigh
      omega
    apply UInt8.toNat_inj.mp
    simpa [loadSample] using congrArg UInt16.toNat h
  | uint16 =>
    have hvalue := congrArg UInt16.toNat h
    have hshift : (8 : UInt16).toNat % 16 = 8 := rfl
    simp only [loadSample, loadUInt16, UInt16.toNat_add, UInt8.toNat_toUInt16,
      UInt16.toNat_shiftLeft, hshift, Nat.shiftLeft_eq] at hvalue
    have hbyte (memory : FrameMemory) (a : Int) := (memory buffer a).toNat_lt
    have := hbyte left address
    have := hbyte right address
    have := hbyte left (address + 1)
    have := hbyte right (address + 1)
    apply UInt8.toNat_inj.mp
    rcases (by simp only [bytesPerSample] at hhigh; omega : a = address ∨ a = address + 1)
      with rfl | rfl
    · omega
    · omega

/-- A write elsewhere does not change a sample. -/
theorem loadSample_apply_of_none {patch : Patch Nat Int UInt8} {format : SampleFormat}
    {buffer : Nat} {address : Int} (memory : FrameMemory)
    (h : ∀ a, address ≤ a → a < address + bytesPerSample format → patch buffer a = none) :
    FrameMemory.loadSample (patch.apply memory) format buffer address =
      memory.loadSample format buffer address := by
  cases format with
  | uint8 =>
    have h₀ := h address (by omega) (by simp [bytesPerSample])
    simp [loadSample, Patch.apply, h₀]
  | uint16 =>
    have h₀ := h address (by omega) (by simp [bytesPerSample])
    have h₁ := h (address + 1) (by omega) (by simp [bytesPerSample])
    simp [loadSample, loadUInt16, Patch.apply, h₀, h₁]

/-- What is read back of a row. -/
theorem loadSample_storeSamples {format : SampleFormat} {buffer : Nat} (row : List UInt16)
    (address : Int) (memory : FrameMemory) {x : Nat} (hx : x < row.length) :
    (storeSamples format buffer address row memory).loadSample format buffer
      (address + x * bytesPerSample format) = keep format (row.getD x 0) := by
  induction row generalizing address memory x with
  | nil => exact absurd hx (Nat.not_lt_zero x)
  | cons sample row ih =>
    cases x with
    | zero =>
      rw [storeSamples, storeSamples_apply, loadSample_apply_of_none]
      · rw [Nat.cast_zero, zero_mul, add_zero]
        exact loadSample_storeSample format buffer address sample memory
      · intro a _ hhigh
        by_contra hwrites
        have hwithin := rowPatch_within _ _ _ _ buffer a hwrites
        have hlow := hwithin.2.1
        omega
    | succ x =>
      have haddress : address + (x + 1 : Nat) * bytesPerSample format =
          address + bytesPerSample format + x * bytesPerSample format := by
        push_cast
        ring
      rw [storeSamples, haddress]
      exact ih _ _ (Nat.lt_of_succ_lt_succ hx)

end FrameMemory

namespace RowStore

def patch (windows : List PlaneWindow) (store : RowStore) : Patch Nat Int UInt8 :=
  let window := planeWindow windows store.planeIndex
  rowPatch window.sampleFormat window.buffer (window.rowAddress store.y) store.row

theorem apply_eq (windows : List PlaneWindow) (memory : FrameMemory) (store : RowStore) :
    store.apply windows memory = (store.patch windows).apply memory :=
  FrameMemory.storeSamples_apply _ _ _ _ _

/-- The row lies in the window of its plane. -/
structure OfWindow (windows : List PlaneWindow) (store : RowStore) : Prop where
  plane_lt : store.planeIndex < windows.length
  y_lt : store.y < (planeWindow windows store.planeIndex).height.toNat
  row_length : store.row.length = (planeWindow windows store.planeIndex).width.toNat

/-- Its samples are those of the window, too. -/
structure InWindow (windows : List PlaneWindow) (store : RowStore) : Prop
    extends OfWindow windows store where
  fits : ∀ sample ∈ store.row,
    FrameMemory.Fits (planeWindow windows store.planeIndex).sampleFormat sample

end RowStore

/-- The bytes of the rows of a window. -/
def PlaneWindow.Bytes (window : PlaneWindow) (buffer : Nat) (a : Int) : Prop :=
  buffer = window.buffer ∧ ∃ y < window.height.toNat, window.rowAddress y ≤ a ∧
    a < window.rowAddress y + window.width.toNat * bytesPerSample window.sampleFormat

/-- No two planes share a byte. -/
def WindowsApart (windows : List PlaneWindow) : Prop :=
  ∀ p < windows.length, ∀ q < windows.length, p ≠ q → ∀ buffer a,
    (planeWindow windows p).Bytes buffer a → ¬(planeWindow windows q).Bytes buffer a

theorem WindowsApart.of_buffers {windows : List PlaneWindow}
    (h : ∀ p < windows.length, ∀ q < windows.length, p ≠ q →
      (planeWindow windows p).buffer ≠ (planeWindow windows q).buffer) : WindowsApart windows :=
  fun p hp q hq hne _ _ hleft hright => h p hp q hq hne (hleft.1.symm.trans hright.1)

def storesPatch (windows : List PlaneWindow) (stores : List RowStore) : Patch Nat Int UInt8 :=
  Patch.sequence (stores.map (RowStore.patch windows))

theorem applyStores_eq (windows : List PlaneWindow) (stores : List RowStore)
    (memory : FrameMemory) :
    applyStores windows stores memory = (storesPatch windows stores).apply memory := by
  rw [storesPatch, Patch.sequence_apply, Patch.applyAll, List.foldl_map]
  exact congrFun (congrFun (congrArg _ (funext fun memory => funext fun store =>
    RowStore.apply_eq windows memory store)) memory) stores

theorem applyStores_append (windows : List PlaneWindow) (stores others : List RowStore)
    (memory : FrameMemory) : applyStores windows (stores ++ others) memory =
      applyStores windows others (applyStores windows stores memory) :=
  List.foldl_append

theorem applyStores_concat (windows : List PlaneWindow) (stores : List RowStore) (last : RowStore)
    (memory : FrameMemory) : applyStores windows (stores ++ [last]) memory =
      last.apply windows (applyStores windows stores memory) :=
  applyStores_append windows stores [last] memory

/-- A row of a window does not reach its next row. -/
def RowsSeparate (window : PlaneWindow) : Prop :=
  (window.width.toNat * bytesPerSample window.sampleFormat : Int) ≤ window.strideBytes

section Rows

variable {windows : List PlaneWindow} {stores : List RowStore}

theorem rowAddress_add_le {window : PlaneWindow} (h : RowsSeparate window) {y y' : Nat} (hy : y < y') :
    window.rowAddress y + window.width.toNat * bytesPerSample window.sampleFormat ≤
      window.rowAddress y' := by
  obtain ⟨k, rfl⟩ := Nat.exists_eq_add_of_lt hy
  have hnonneg : 0 ≤ window.strideBytes := le_trans (by positivity) h
  have hk : 0 ≤ (k : Int) * window.strideBytes := by positivity
  unfold RowsSeparate at h
  unfold PlaneWindow.rowAddress
  push_cast
  linarith

/-- A byte of a sample is a byte of its row. -/
theorem sample_bytes {window : PlaneWindow} {x y : Nat} {a : Int} (hx : x < window.width.toNat)
    (hlow : window.sampleAddress x y ≤ a)
    (hhigh : a < window.sampleAddress x y + bytesPerSample window.sampleFormat) :
    window.rowAddress y ≤ a ∧
      a < window.rowAddress y + window.width.toNat * bytesPerSample window.sampleFormat := by
  have hcolumn : ((x : Int) + 1) * bytesPerSample window.sampleFormat ≤
      window.width.toNat * bytesPerSample window.sampleFormat := by
    exact_mod_cast Nat.mul_le_mul_right _ hx
  have hcolumn0 : 0 ≤ (x : Int) * bytesPerSample window.sampleFormat := by positivity
  unfold PlaneWindow.sampleAddress at hlow hhigh
  constructor <;> linarith

/-- A row leaves the samples of the other rows and of the other planes alone. -/
theorem sampleAt_apply_other {store : RowStore} (hstore : store.OfWindow windows)
    (hplanes : WindowsApart windows) {planeIndex x y : Nat} (hplane : planeIndex < windows.length)
    (hrows : RowsSeparate (planeWindow windows planeIndex))
    (hx : x < (planeWindow windows planeIndex).width.toNat)
    (hy : y < (planeWindow windows planeIndex).height.toNat)
    (h : ¬(store.planeIndex = planeIndex ∧ store.y = y)) (memory : FrameMemory) :
    (store.apply windows memory).sampleAt (planeWindow windows planeIndex) x y =
      memory.sampleAt (planeWindow windows planeIndex) x y := by
  rw [RowStore.apply_eq]
  refine FrameMemory.loadSample_apply_of_none memory fun a hlow hhigh => ?_
  by_contra hwrites
  obtain ⟨hbuffer, hstart, hend⟩ := rowPatch_within _ _ _ _ _ a hwrites
  rw [hstore.row_length] at hend
  push_cast at hend
  obtain ⟨hlow, hhigh⟩ := sample_bytes hx hlow hhigh
  by_cases hsame : store.planeIndex = planeIndex
  · subst hsame
    rcases Nat.lt_or_gt_of_ne fun hy => h ⟨rfl, hy⟩ with hlt | hgt
    · have hrow := rowAddress_add_le hrows hlt
      linarith
    · have hrow := rowAddress_add_le hrows hgt
      linarith
  · exact hplanes _ hstore.plane_lt _ hplane hsame _ a
      ⟨hbuffer, store.y, hstore.y_lt, hstart, hend⟩ ⟨rfl, y, hy, hlow, hhigh⟩

theorem sampleAt_apply_same {store : RowStore} (hstore : store.OfWindow windows) {x : Nat}
    (hx : x < (planeWindow windows store.planeIndex).width.toNat) (memory : FrameMemory) :
    (store.apply windows memory).sampleAt (planeWindow windows store.planeIndex) x store.y =
      FrameMemory.keep (planeWindow windows store.planeIndex).sampleFormat (store.row.getD x 0) :=
  FrameMemory.loadSample_storeSamples _ _ memory (hstore.row_length ▸ hx)

/-- What is read back of rows that are stored at most once, or always the same. -/
theorem sampleAt_applyStores {rowOf : Nat → Nat → List UInt16}
    (hstores : ∀ store ∈ stores, store.InWindow windows ∧
      store.row = rowOf store.planeIndex store.y)
    (hplanes : WindowsApart windows) {planeIndex x y : Nat} (hplane : planeIndex < windows.length)
    (hrows : RowsSeparate (planeWindow windows planeIndex))
    (hx : x < (planeWindow windows planeIndex).width.toNat)
    (hy : y < (planeWindow windows planeIndex).height.toNat)
    (hstored : ∃ store ∈ stores, store.planeIndex = planeIndex ∧ store.y = y)
    (memory : FrameMemory) :
    (applyStores windows stores memory).sampleAt (planeWindow windows planeIndex) x y =
      (rowOf planeIndex y).getD x 0 := by
  induction stores using List.reverseRecOn with
  | nil =>
    obtain ⟨store, hmem, -⟩ := hstored
    exact absurd hmem List.not_mem_nil
  | append_singleton stores last ih =>
    obtain ⟨hlast, hrow⟩ := hstores last (by simp)
    rw [applyStores_concat]
    by_cases hsame : last.planeIndex = planeIndex ∧ last.y = y
    · obtain ⟨rfl, rfl⟩ := hsame
      have hsample : last.row.getD x 0 ∈ last.row := by
        rw [List.getD_eq_getElem _ _ (hlast.row_length ▸ hx)]
        exact List.getElem_mem _
      rw [sampleAt_apply_same hlast.toOfWindow hx, FrameMemory.keep_of_fits (hlast.fits _ hsample),
        hrow]
    · rw [sampleAt_apply_other hlast.toOfWindow hplanes hplane hrows hx hy hsame]
      refine ih (fun store hmem => hstores store (List.mem_append_left _ hmem)) ?_
      obtain ⟨store, hmem, hplace⟩ := hstored
      rcases List.mem_append.mp hmem with hmem | hmem
      · exact ⟨store, hmem, hplace⟩
      · obtain rfl := List.mem_singleton.mp hmem
        exact absurd hplace hsame

end Rows

end Mffv1
