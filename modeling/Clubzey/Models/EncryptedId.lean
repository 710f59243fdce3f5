import Clubzey.Dart.TimeZone
import Clubzey.Models.Encryption

/-! EncryptedId: the parts of a scanned text. -/

namespace Clubzey.Models
open Dart

structure EncryptedId where
  code : List String
  deriving DecidableEq, Repr

namespace EncryptedId

def part (encryptedId : EncryptedId) (index : Nat) : Except Thrown String :=
  match encryptedId.code[index]? with
  | some text => .ok text
  | none => .error .rangeError

def getId (encryptedId : EncryptedId) : Except Thrown String := encryptedId.part 0

def getDateTime (offset : UtcOffset) (encryptedId : EncryptedId) : Except Thrown DateTime := do
  DateTime.parse offset (← encryptedId.part 1)

/-- `getDateTime` on a device whose offset changes. -/
def getLocalDateTime (zone : TimeZone) (encryptedId : EncryptedId) : Except Thrown DateTime := do
  zone.parse (← encryptedId.part 1)

def getShares (encryptedId : EncryptedId) : Except Thrown Int := do
  parseInt (← encryptedId.part 2)

section
variable (id dateTime shares : String)

theorem getId_parts : getId ⟨[id, dateTime, shares]⟩ = .ok id := rfl

theorem getDateTime_parts (offset : UtcOffset) :
    getDateTime offset ⟨[id, dateTime, shares]⟩ = DateTime.parse offset dateTime := rfl

theorem getLocalDateTime_parts (zone : TimeZone) :
    getLocalDateTime zone ⟨[id, dateTime, shares]⟩ = zone.parse dateTime := rfl

theorem getShares_parts : getShares ⟨[id, dateTime, shares]⟩ = parseInt shares := rfl

end

end EncryptedId
end Clubzey.Models
