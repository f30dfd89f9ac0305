import Mffv1.ConfigurationParser
import Mffv1.Crc32

/-!
# The configuration record parser

Only the version is needed to know whether the final four bytes are CRC parity.
-/
namespace Mffv1

namespace ConfigurationRecordParser

def probeVersion (record : Bytes) : Call RangeCoder Nat := do
  RangeCoder.reset record [1] [] defaultStateTransition
  RangeCoder.readUnsigned 0 0

/-- The bytes that hold the parameters of a record of `version`. -/
def parameterPayload (record : Bytes) (version : Nat) : Except Error Bytes := do
  if version < 3 then return record
  else
    failIf (record.length < 4) (makeByteError .syntaxError
      "configuration record is too small for CRC parity" 0)
    failIf (crc32IeeeMsb record ≠ 0) (makeByteError .crcMismatch
      "configuration record CRC remainder is non-zero" (record.length - 4))
    return record.take (record.length - 4)

def parsePayload (payload : Bytes) : Call RangeCoder StreamParameters := do
  RangeCoder.reset payload [scalarContextSize] [] defaultStateTransition
  ConfigurationParser.parse

def parse (record : Bytes) : Except Error StreamParameters := do
  failIf (record = []) (makeError .invalidArgument "configuration record is empty")
  let version ← (probeVersion record).valueOn {}
  let payload ← parameterPayload record version
  (parsePayload payload).valueOn {}

end ConfigurationRecordParser

end Mffv1
