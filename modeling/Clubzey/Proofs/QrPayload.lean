import Clubzey.Views.AddMemberPage

/-! The text of a QR code decodes to what it was built from. Calendar fields stand for
the instant, because an hour that the zone repeats is printed twice alike. -/

namespace Clubzey.Proofs.QrPayload
open Dart Models Views Foundation

def localQrCode (zone : TimeZone) (id : String) (qrCreated : DateTime) (shares : Int64) : String :=
  qrCode (zone.offsetOf qrCreated) id qrCreated shares.toInt

structure Decodes (zone : TimeZone) (text : String) (id : String) (fields : Parts) (shares : Int64) : Prop where
  parts : (split text '*').length = 3
  getId : (⟨split text '*'⟩ : EncryptedId).getId = .ok id
  getDateTime : ∃ time, (⟨split text '*'⟩ : EncryptedId).getLocalDateTime zone = .ok time ∧ zone.fields time = fields
  getShares : (⟨split text '*'⟩ : EncryptedId).getShares = .ok shares.toInt

theorem Decodes.unique {zone : TimeZone} {text id id' : String} {fields fields' : Parts} {shares shares' : Int64}
    (one : Decodes zone text id fields shares) (other : Decodes zone text id' fields' shares') :
    id = id' ∧ fields = fields' ∧ shares = shares' := by
  have ids := one.getId.symm.trans other.getId
  have numbers := one.getShares.symm.trans other.getShares
  obtain ⟨time, dated, rfl⟩ := one.getDateTime
  obtain ⟨again, datedAgain, rfl⟩ := other.getDateTime
  have times := dated.symm.trans datedAgain
  cases times
  exact ⟨Except.ok.inj ids, rfl, Int64.toInt_inj.mp (Except.ok.inj numbers)⟩

/-- Years with a minus sign or five digits are left out; the rest is any local time. -/
def FourDigitYear (zone : TimeZone) (time : DateTime) : Prop :=
  0 ≤ (zone.fields time).date.year ∧ (zone.fields time).date.year ≤ 9999

theorem localQrCode_decodes (zone : TimeZone) {id : String} (plain : '*' ∉ id.toList) {time : DateTime}
    (year : FourDigitYear zone time) (shares : Int64) :
    Decodes zone (localQrCode zone id time shares) id (zone.fields time) shares := by
  have parts : split (localQrCode zone id time shares) '*' =
      [id, time.text (zone.offsetOf time), intText shares.toInt] := split_qrCode _ plain _ _
  have readable := TimeZone.readable year.1 year.2
  refine ⟨?_, ?_, ⟨⟨_, readable⟩, ?_, zone.fields_shift time⟩, ?_⟩
  · rw [parts]
    rfl
  · rw [parts, EncryptedId.getId_parts]
  · rw [parts, EncryptedId.getLocalDateTime_parts, zone.parse_text, DateTime.ofMicros_ok readable]
  · rw [parts, EncryptedId.getShares_parts]
    exact parseInt_intText ⟨shares.le_toInt, shares.toInt_lt⟩

/-- Every code is decrypted, split into three parts and decoded to what it was built
from, so codes built from different ids, times or shares differ. -/
theorem qr_payload_round_trips (zone : TimeZone) {encryption : Encryption} (roundTrips : encryption.RoundTrips)
    {id : String} (plain : '*' ∉ id.toList) {time : DateTime} (year : FourDigitYear zone time) (shares : Int64) :
    (∃ text, encryption.decrypted (encryption.encrypted (localQrCode zone id time shares)) = .ok text ∧
      Decodes zone text id (zone.fields time) shares) ∧
    ∀ other again otherShares, '*' ∉ other.toList → FourDigitYear zone again →
      (encryption.encrypted (localQrCode zone id time shares) =
          encryption.encrypted (localQrCode zone other again otherShares) ∨
        localQrCode zone id time shares = localQrCode zone other again otherShares) →
      id = other ∧ zone.fields time = zone.fields again ∧ shares = otherShares := by
  have decodes := localQrCode_decodes zone plain year shares
  refine ⟨⟨_, roundTrips _, decodes⟩, ?_⟩
  intro other again otherShares otherPlain otherYear same
  have texts : localQrCode zone id time shares = localQrCode zone other again otherShares := by
    rcases same with encrypted | texts
    · have decrypted := roundTrips (localQrCode zone id time shares)
      rw [encrypted, roundTrips] at decrypted
      exact (Except.ok.inj decrypted).symm
    · exact texts
  have decodesOther := localQrCode_decodes zone otherPlain otherYear otherShares
  rw [← texts] at decodesOther
  exact decodes.unique decodesOther

/-- The end of summer time in Paris in 2022. -/
def paris : TimeZone := .putBack 1667091600000000

def repeatedHour : DateTime := ⟨1667093399123456, by decide⟩

theorem repeated_hour_round_trips :
    (∃ text, Encryption.counterMode.decrypted (Encryption.counterMode.encrypted
        (localQrCode paris "c1" repeatedHour (-3))) = .ok text ∧
      Decodes paris text "c1" (paris.fields repeatedHour) (-3)) ∧
    ∀ other again otherShares, '*' ∉ other.toList → FourDigitYear paris again →
      (Encryption.counterMode.encrypted (localQrCode paris "c1" repeatedHour (-3)) =
          Encryption.counterMode.encrypted (localQrCode paris other again otherShares) ∨
        localQrCode paris "c1" repeatedHour (-3) = localQrCode paris other again otherShares) →
      "c1" = other ∧ paris.fields repeatedHour = paris.fields again ∧ -3 = otherShares := by
  have plain : '*' ∉ "c1".toList := by decide
  have year : FourDigitYear paris repeatedHour := by
    unfold FourDigitYear
    decide
  exact qr_payload_round_trips paris Encryption.counterMode_roundTrips plain year (-3)

end Clubzey.Proofs.QrPayload
