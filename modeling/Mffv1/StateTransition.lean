import Mffv1.Status

/-!
# State transition tables

A context state is a byte; the table gives its successor after a one, and the
mirrored table its successor after a zero.
-/
namespace Mffv1

/-- Entry behind entry, where the instance for arrays looks each of them up. -/
instance decidableEqVector {α : Type} [DecidableEq α] {n : Nat} : DecidableEq (Vector α n) :=
  fun a b => decidable_of_iff (a.toList = b.toList) Vector.toList_inj

abbrev StateTransitionTable := Vector UInt8 256

set_option maxRecDepth 4000 in
def defaultStateTransition : StateTransitionTable :=
  #v[
    0, 0, 0, 0, 0, 0, 0, 0, 20, 21, 22, 23, 24, 25, 26, 27,
    28, 29, 30, 31, 32, 33, 34, 35, 36, 37, 37, 38, 39, 40, 41, 42,
    43, 44, 45, 46, 47, 48, 49, 50, 51, 52, 53, 54, 55, 56, 56, 57,
    58, 59, 60, 61, 62, 63, 64, 65, 66, 67, 68, 69, 70, 71, 72, 73,
    74, 75, 75, 76, 77, 78, 79, 80, 81, 82, 83, 84, 85, 86, 87, 88,
    89, 90, 91, 92, 93, 94, 94, 95, 96, 97, 98, 99, 100, 101, 102, 103,
    104, 105, 106, 107, 108, 109, 110, 111, 112, 113, 114, 114, 115, 116, 117, 118,
    119, 120, 121, 122, 123, 124, 125, 126, 127, 128, 129, 130, 131, 132, 133, 133,
    134, 135, 136, 137, 138, 139, 140, 141, 142, 143, 144, 145, 146, 147, 148, 149,
    150, 151, 152, 152, 153, 154, 155, 156, 157, 158, 159, 160, 161, 162, 163, 164,
    165, 166, 167, 168, 169, 170, 171, 171, 172, 173, 174, 175, 176, 177, 178, 179,
    180, 181, 182, 183, 184, 185, 186, 187, 188, 189, 190, 190, 191, 192, 194, 194,
    195, 196, 197, 198, 199, 200, 201, 202, 202, 204, 205, 206, 207, 208, 209, 209,
    210, 211, 212, 213, 215, 215, 216, 217, 218, 219, 220, 220, 222, 223, 224, 225,
    226, 227, 227, 229, 229, 230, 231, 232, 234, 234, 235, 236, 237, 238, 239, 240,
    241, 242, 243, 244, 245, 246, 247, 248, 248, 0, 0, 0, 0, 0, 0, 0]

def StateTransitionTable.entry (table : StateTransitionTable) (state : UInt8) : UInt8 :=
  table.get ⟨state.toNat, state.toNat_lt⟩

def rangeZeroState (stateTransition : StateTransitionTable) (state : UInt8) : UInt8 :=
  if state = 0 then 0
  else (256 - (stateTransition.entry (256 - state.toNat).toUInt8).toNat).toUInt8

def rangeOneState (stateTransition : StateTransitionTable) (state : UInt8) : UInt8 :=
  stateTransition.entry state

end Mffv1
