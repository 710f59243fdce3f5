import Clubzey.Dart.DateTimeText
import Clubzey.Models.Club
import Clubzey.Views.QrCodeScanner

/-! AddMemberPage: the text behind the QR code on display. -/

namespace Clubzey.Views
open Dart Models Foundation

/-- `'${club.getId}*${_qrCreated}*${shares}'`, the instant in local time. -/
def qrCode (offset : UtcOffset) (id : String) (qrCreated : DateTime) (shares : Int) : String :=
  id ++ "*" ++ qrCreated.text offset ++ "*" ++ intText shares

def qrImageData (encryption : Encryption) (offset : UtcOffset) (club : Club) (qrCreated : DateTime) (shares : Int) :
    Except Thrown String := do
  return encryption.encrypted (qrCode offset (← club.getId) qrCreated shares)

theorem split_qrCode (offset : UtcOffset) {id : String} (plain : '*' ∉ id.toList) (qrCreated : DateTime) (shares : Int) :
    split (qrCode offset id qrCreated shares) '*' = [id, qrCreated.text offset, intText shares] := by
  have dateText : '*' ∉ (qrCreated.text offset).toList := by
    intro star
    rw [DateTime.text, String.toList_ofList] at star
    rcases DateTime.mem_calendarText star with digit | other
    · simp at digit
    · simp at other
  have sharesText : '*' ∉ (intText shares).toList := by
    intro star
    rw [intText, String.toList_ofList] at star
    rcases Decimal.mem_signed star with digit | other
    · simp at digit
    · simp at other
  have joined : (qrCode offset id qrCreated shares).toList =
      id.toList ++ '*' :: ((qrCreated.text offset).toList ++ '*' :: (intText shares).toList) := by
    simp [qrCode]
  rw [split, joined, List.splitOn_append_cons_self_of_not_mem plain, List.splitOn_append_cons_self_of_not_mem dateText,
    List.splitOn_eq_singleton sharesText]
  simp

section
variable {encryption : Encryption} (roundTrips : encryption.RoundTrips) (printed : UtcOffset) {read : UtcOffset}
  {id : String} (plain : '*' ∉ id.toList) {qrCreated : DateTime} (shares : Int)
include roundTrips plain

theorem scan_qrCode
    (readable : (qrCreated.microsecondsSinceEpoch + printed.shift read).natAbs ≤ maxMicroseconds)
    (now again : DateTime) :
    Scan.scan encryption read now again (some (encryption.encrypted (qrCode printed id qrCreated shares))) =
      if DateTime.secondsSince now ⟨_, readable⟩ < 31 ∧ 0 < DateTime.secondsSince again ⟨_, readable⟩ then
        (.adding ⟨[id, qrCreated.text printed, intText shares]⟩, true)
      else (.expired, true) := by
  have parts := split_qrCode printed plain qrCreated shares
  have dated : EncryptedId.getDateTime read ⟨split (qrCode printed id qrCreated shares) '*'⟩ = .ok ⟨_, readable⟩ := by
    rw [parts, EncryptedId.getDateTime_parts, DateTime.parse_text, DateTime.ofMicros_ok readable]
  rw [Scan.scan_dated (roundTrips _) dated, parts]

theorem scan_qrCode_unreadable
    (unreadable : ¬ (qrCreated.microsecondsSinceEpoch + printed.shift read).natAbs ≤ maxMicroseconds)
    (now again : DateTime) :
    Scan.scan encryption read now again (some (encryption.encrypted (qrCode printed id qrCreated shares))) =
      (.thrown .formatException, true) := by
  have undated : EncryptedId.getDateTime read ⟨split (qrCode printed id qrCreated shares) '*'⟩ =
      .error .formatException := by
    rw [split_qrCode printed plain, EncryptedId.getDateTime_parts, DateTime.parse_text,
      DateTime.ofMicros_error unreadable]
  rw [Scan.scan_undated (roundTrips _) undated]

end

end Clubzey.Views
