import Clubzey.Dart.Core

/-! Encryption, the app's wrapper around a cipher with a fixed key and vector. The
cipher is a parameter; `counterMode` is an instance of it. -/

namespace Clubzey.Models
open Dart

/-- Texts as they are shown in a QR code, with base 16 around the ciphertext. -/
structure Encryption where
  /-- `encrypted(code: code).base16`. -/
  encrypted : String → String
  /-- `decrypted(encrypted: Encrypted.fromBase16(code))`. -/
  decrypted : String → Except Thrown String

namespace Encryption

def RoundTrips (encryption : Encryption) : Prop :=
  ∀ code, encryption.decrypted (encryption.encrypted code) = .ok code

def base16 (bytes : List UInt8) : List Char :=
  bytes.flatMap fun byte => [Nat.digitChar (byte.toNat / 16), Nat.digitChar (byte.toNat % 16)]

def fromBase16 : List Char → Option (List UInt8)
  | [] => some []
  | [_] => none
  | high :: low :: rest =>
    if isHexDigit high ∧ isHexDigit low then
      (fromBase16 rest).map (UInt8.ofNat (16 * hexDigitValue high + hexDigitValue low) :: ·)
    else none

/-- Blocks of sixteen bytes, of which the last ends in as many copies of a count. -/
def pad (bytes : List UInt8) : List UInt8 :=
  let count := 16 - bytes.length % 16
  bytes ++ List.replicate count (UInt8.ofNat count)

def unpad (bytes : List UInt8) : Option (List UInt8) :=
  match bytes.getLast? with
  | none => none
  | some last =>
    let count := last.toNat
    if count ≤ bytes.length ∧ bytes.drop (bytes.length - count) = List.replicate count last then
      some (bytes.take (bytes.length - count))
    else none

def mask : List UInt8 → List UInt8 → List UInt8
  | [], _ => []
  | byte :: bytes, [] => byte :: bytes
  | byte :: bytes, key :: keys => (byte ^^^ key) :: mask bytes keys

/-- What AES encrypts the counters 0 to 5 to under the app's key, the character 1
sixteen times over. -/
def keystream : List UInt8 :=
  (fromBase16 ("10dfc1b5f66cfd6a1dc46d66907beeb13f662d50bae0f7347e201318ce94c8f4" ++
    "91f3a60596e6f0f421d002b2b042eacb15b9c298f45dbe98c29fb4347af4ad39" ++
    "2bc8270b220528de576a1378b1785d67baf65fb677650a740af57900fe964787").toList).getD []

def counterMode : Encryption where
  encrypted code := String.ofList (base16 (mask (pad code.toUTF8.data.toList) keystream))
  decrypted code :=
    match (fromBase16 code.toList).bind fun bytes => unpad (mask bytes keystream) with
    | none => .error .formatException
    | some bytes => (String.fromUTF8? ⟨bytes.toArray⟩).elim (.error .formatException) .ok

private theorem hexDigit_digitChar : ∀ digit < 16, isHexDigit (Nat.digitChar digit) = true ∧
    hexDigitValue (Nat.digitChar digit) = digit := by
  decide

theorem fromBase16_base16 (bytes : List UInt8) : fromBase16 (base16 bytes) = some bytes := by
  induction bytes with
  | nil => rfl
  | cons byte bytes ih =>
    have small := byte.toNat_lt
    obtain ⟨highDigit, high⟩ := hexDigit_digitChar (byte.toNat / 16) (by omega)
    obtain ⟨lowDigit, low⟩ := hexDigit_digitChar (byte.toNat % 16) (by omega)
    have whole : 16 * (byte.toNat / 16) + byte.toNat % 16 = byte.toNat := Nat.div_add_mod ..
    have first : base16 (byte :: bytes) =
        Nat.digitChar (byte.toNat / 16) :: Nat.digitChar (byte.toNat % 16) :: base16 bytes := rfl
    rw [first, fromBase16, if_pos ⟨highDigit, lowDigit⟩, ih, high, low, whole, UInt8.ofNat_toNat, Option.map_some]

theorem mask_mask (bytes keys : List UInt8) : mask (mask bytes keys) keys = bytes := by
  induction bytes generalizing keys with
  | nil => rfl
  | cons byte bytes ih =>
    cases keys with
    | nil => rfl
    | cons key keys => rw [mask, mask, ih, UInt8.xor_assoc, UInt8.xor_self, UInt8.xor_zero]

theorem unpad_pad (bytes : List UInt8) : unpad (pad bytes) = some bytes := by
  obtain ⟨count, countIs⟩ : ∃ count, count = 16 - bytes.length % 16 := ⟨_, rfl⟩
  have positive : 0 < count := by omega
  have small : (UInt8.ofNat count).toNat = count := by
    rw [UInt8.toNat_ofNat']
    omega
  have padded : pad bytes = bytes ++ List.replicate count (UInt8.ofNat count) := by rw [countIs, pad]
  have last : (pad bytes).getLast? = some (UInt8.ofNat count) := by
    rw [padded, List.getLast?_append, List.getLast?_replicate, if_neg (by omega), Option.some_or]
  have length : (pad bytes).length - count = bytes.length := by
    rw [padded, List.length_append, List.length_replicate]
    omega
  rw [unpad, last]
  simp only [small, length]
  rw [padded, List.drop_left, List.take_left, if_pos ⟨by simp, rfl⟩]

theorem counterMode_roundTrips : counterMode.RoundTrips := by
  intro code
  have valid : code.toUTF8.IsValidUTF8 := code.isValidUTF8
  have decoded : String.fromUTF8? code.toUTF8 = some code := by
    unfold String.fromUTF8?
    rw [dif_pos valid]
    rfl
  simp only [counterMode, String.toList_ofList, fromBase16_base16, Option.bind_some, mask_mask, unpad_pad]
  exact congrArg (Option.elim · _ _) decoded

end Encryption
end Clubzey.Models
