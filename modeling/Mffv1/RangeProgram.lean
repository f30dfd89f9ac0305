import Mffv1.RangeSymbols

/-!
# Whole programs of range coder operations

`RangeEncoder.run` performs a list of operations, `RangeCoder.run` the mirrored
reads. Started on the same contexts, with the finalized bytes and anything after
them as the payload, the reads return the written values.
-/
namespace Mffv1

/-- The operations of a range-coded stream. `endIndependent` closes the innermost
open `beginIndependent`; an unmatched one fails in the encoder. -/
inductive RangeOperation where
  | bool (value : Bool)
  | unsigned (bank context : Nat) (value : UInt64)
  | signed (bank context : Nat) (value : Int64)
  | terminationSentinel
  | reconfigureContexts (counts : List Nat) (initial : List ContextStateBank)
  | beginIndependent (count : Nat)
  | endIndependent

/-- What a mirrored read returns. -/
inductive RangeValue where
  | bool (value : Bool)
  | unsigned (value : Nat)
  | signed (value : Int)
  | nothing
  deriving DecidableEq, Repr

def RangeOperation.written : RangeOperation → RangeValue
  | .bool value => .bool value
  | .unsigned _ _ value => .unsigned value.toNat
  | .signed _ _ value => .signed value.toInt
  | _ => .nothing

def RangeEncoder.perform : RangeOperation → Call RangeEncoder Unit
  | .bool value => writeBool value
  | .unsigned bank context value => writeUnsigned bank context value.toNat
  | .signed bank context value => writeSigned bank context value.toInt
  | .terminationSentinel => writeTerminationSentinel
  | .reconfigureContexts counts initial => reconfigureContexts counts initial
  | .beginIndependent count => beginIndependentScalarContexts count
  | .endIndependent => endIndependentScalarContexts

def RangeCoder.perform : RangeOperation → Call RangeCoder RangeValue
  | .bool _ => do return .bool (← readBool)
  | .unsigned bank context _ => do return .unsigned (← readUnsigned bank context)
  | .signed bank context _ => do return .signed (← readSigned bank context)
  | .terminationSentinel => do readTerminationSentinel; return .nothing
  | .reconfigureContexts counts initial => do
    reconfigureContexts counts initial
    return .nothing
  | .beginIndependent count => do beginIndependentScalarContexts count; return .nothing
  | .endIndependent => do endIndependentScalarContexts; return .nothing

def RangeEncoder.run : List RangeOperation → Call RangeEncoder Unit
  | [] => return ()
  | operation :: operations => do
    perform operation
    run operations

def RangeCoder.run : List RangeOperation → Call RangeCoder (List RangeValue)
  | [] => return []
  | operation :: operations => do
    let value ← perform operation
    let values ← run operations
    return value :: values

section Programs

variable {payload : Bytes} {base : List ContextStateBanks} {F : Prop}

/-- One operation, mirrored. -/
theorem perform_reads (operation : RangeOperation) :
    Reads payload base F (RangeEncoder.perform operation) (RangeCoder.perform operation)
      (fun _ => operation.written) := by
  cases operation with
  | bool value => exact (bool_reads value).map RangeValue.bool
  | unsigned bank context value =>
    exact (unsigned_reads bank context value.toNat).map RangeValue.unsigned
  | signed bank context value =>
    exact (signed_reads bank context value.toInt).map RangeValue.signed
  | terminationSentinel => exact terminationSentinel_reads.map fun _ => RangeValue.nothing
  | reconfigureContexts counts initial =>
    exact (reconfigureContexts_reads counts initial).map fun _ => RangeValue.nothing
  | beginIndependent count =>
    exact (beginIndependent_reads count).map fun _ => RangeValue.nothing
  | endIndependent => exact endIndependent_reads.map fun _ => RangeValue.nothing

theorem run_reads (operations : List RangeOperation) :
    Reads payload base F (RangeEncoder.run operations) (RangeCoder.run operations)
      (fun _ => operations.map RangeOperation.written) := by
  induction operations with
  | nil => exact Reads.pure rfl
  | cons operation operations ih =>
    exact Reads.bind (perform_reads operation) fun _ => ih.map (operation.written :: ·)

/-- A successful program leaves an encoder that can be finalized. -/
theorem run_ready (operations : List RangeOperation) {e e' : RangeEncoder} (hready : e.Ready)
    (h : RangeEncoder.run operations e = .ok () e') : e'.Ready := by
  have hreads : Reads [] [] False _ _ _ := run_reads operations
  exact (hreads e () e' hready h).1

end Programs

/-- Every successful program of encoder operations is read back, whatever follows
its bytes, and leaves the decoder on the encoder's contexts at the end of them. -/
theorem rangeCoder_inverts_rangeEncoder (table : StateTransitionTable) (counts : List Nat)
    (initial : List ContextStateBank) (operations : List RangeOperation) (tail : Bytes)
    (unused started written closed : RangeEncoder) (bytes : Bytes) (fresh : RangeCoder)
    (hreset : RangeEncoder.reset counts initial table unused = .ok () started)
    (hrun : RangeEncoder.run operations started = .ok () written)
    (hfinalize : RangeEncoder.finalize written = .ok bytes closed)
    (harithmetic : fresh.legacyV0Arithmetic = false)
    (hcarry : fresh.legacyZeroSymbolCarry = false) :
    ∃ reader reader' : RangeCoder,
      RangeCoder.reset (bytes ++ tail) counts initial table fresh = .ok () reader ∧
      RangeCoder.run operations reader = .ok (operations.map RangeOperation.written) reader' ∧
      reader'.copyContexts = closed.copyContexts ∧
      reader'.bytePosition = bytes.length ∧ reader'.low = 0 := by
  obtain ⟨rfl, rfl⟩ := finalize_ok hfinalize
  have hstart := RangeEncoder.reset_ready hreset
  have hreads : Reads (written.lowBytes ++ tail) fresh.scalarContextSnapshots False _ _ _ :=
    run_reads operations
  obtain ⟨hready, hback⟩ := hreads started () written hstart hrun
  obtain ⟨hfits, hread⟩ := hback (finalize_fits hready tail)
  have hlen : 2 ≤ (written.lowBytes ++ tail).length := by
    have := hready.length_ge
    rw [List.length_append]
    omega
  obtain ⟨reader, hreader, htracks⟩ := reset_tracks hreset hfits hlen harithmetic hcarry
  obtain ⟨values, reader', hvalues, rfl, hend⟩ := (hread reader htracks).result
  have hinit := hready.initialized
  refine ⟨reader, reader', hreader, hvalues, ?_, ?_, ?_⟩
  · simp only [RangeCoder.copyContexts, RangeEncoder.copyContexts, hend.initialized, hinit,
      hend.contexts, if_true]
  · rw [hend.window.position, List.length_append]
    exact Nat.min_eq_left (Nat.le_add_right _ _)
  · have hlow := hend.window.low
    simp only [RangeEncoder.interval, ByteValue.prefixValue_append _ _ (Nat.le_refl _),
      ByteValue.prefixValue_length] at hlow
    exact UInt32.toNat_inj.mp (by simpa using hlow)

def sampleOperations : List RangeOperation :=
  [.bool true, .unsigned 0 1 6, .beginIndependent 1, .signed 0 0 (-5), .endIndependent,
    .signed 1 0 9, .reconfigureContexts [2] [], .unsigned 0 1 0]

def sampleStart : RangeEncoder :=
  Mirror.finalState (RangeEncoder.reset [2, 1] [] defaultStateTransition {})

def sampleWritten : RangeEncoder := Mirror.finalState (RangeEncoder.run sampleOperations sampleStart)

def sampleClosed : RangeEncoder := { sampleWritten with finalized := true }

theorem sampleStart_eq :
    RangeEncoder.reset [2, 1] [] defaultStateTransition {} = .ok () sampleStart :=
  Mirror.eq_ok_of_succeeded (by decide +kernel)

theorem sampleWritten_eq : RangeEncoder.run sampleOperations sampleStart = .ok () sampleWritten :=
  Mirror.eq_ok_of_succeeded (by decide +kernel)

theorem rangeCoder_inverts_sample :
    ∃ reader reader' : RangeCoder,
      RangeCoder.reset (sampleWritten.lowBytes ++ [1, 2]) [2, 1] [] defaultStateTransition {} =
        .ok () reader ∧
      RangeCoder.run sampleOperations reader =
        .ok (sampleOperations.map RangeOperation.written) reader' ∧
      reader'.copyContexts = sampleClosed.copyContexts ∧
      reader'.bytePosition = sampleWritten.lowBytes.length ∧ reader'.low = 0 :=
  rangeCoder_inverts_rangeEncoder defaultStateTransition [2, 1] [] sampleOperations [1, 2] {}
    sampleStart sampleWritten sampleClosed sampleWritten.lowBytes {} sampleStart_eq
    sampleWritten_eq
    (finalize_of_ready (run_ready sampleOperations
      (RangeEncoder.reset_ready sampleStart_eq) sampleWritten_eq)) rfl rfl

end Mffv1
