import Clubzey.Systems.Scanner
import Clubzey.Views.AddMemberPage

/-! Which codes leave the scanner usable. The controller is disposed as soon as a text
has been decrypted, whatever becomes of it. -/

namespace Clubzey.Proofs.ScannerUse
open Dart Models Views Systems.Scanner

def validJoin (encryption : Encryption) (delivery : Delivery) : Option EncryptedId :=
  match (scan encryption delivery).1 with
  | .adding encryptedId => if encryptedId.getShares.isOk then some encryptedId else none
  | _ => none

/-- Codes before the first valid one leave the page as it was, and the first valid one
is the only one that joins. -/
structure Orderly (encryption : Encryption) (deliveries : List Delivery) : Prop where
  usable : ∀ earlier later, deliveries = earlier ++ later → earlier.findSome? (validJoin encryption) = none →
    listenAll encryption earlier = {}
  joins : (listenAll encryption deliveries).joins = (deliveries.findSome? (validJoin encryption)).toList

def Undecodable (encryption : Encryption) (delivery : Delivery) : Prop :=
  ∀ code text, delivery.code = some code → encryption.decrypted code ≠ .ok text

def beforeJoin (encryption : Encryption) (deliveries : List Delivery) : List Delivery :=
  deliveries.takeWhile fun delivery => (validJoin encryption delivery).isNone

variable {encryption : Encryption}

theorem scan_undecodable {delivery : Delivery} (undecodable : Undecodable encryption delivery) :
    ∃ error, scan encryption delivery = (.thrown error, false) := by
  unfold scan
  cases shown : delivery.code with
  | none => exact ⟨.nullCheck, rfl⟩
  | some code =>
    cases decrypted : encryption.decrypted code with
    | error error =>
      refine ⟨error, ?_⟩
      simp only [Scan.scan, decrypted]
    | ok text => exact absurd decrypted (undecodable code text shown)

theorem scan_decodable {delivery : Delivery} (decodable : ¬ Undecodable encryption delivery) :
    (scan encryption delivery).2 = true := by
  unfold Undecodable at decodable
  simp only [not_forall, not_not] at decodable
  obtain ⟨code, text, shown, decrypted⟩ := decodable
  unfold scan
  rw [shown]
  simp only [Scan.scan, decrypted]
  split <;> rfl

theorem listen_undecodable {delivery : Delivery} (undecodable : Undecodable encryption delivery) :
    listen encryption {} delivery = {} := by
  obtain ⟨error, thrown⟩ := scan_undecodable undecodable
  simp [Systems.Scanner.listen, thrown]

theorem listen_decodable {delivery : Delivery} (decodable : ¬ Undecodable encryption delivery) :
    (listen encryption {} delivery).disposed = true := by
  have disposed := scan_decodable decodable
  rw [Systems.Scanner.listen, if_neg (by decide)]
  split
  next scanned =>
    rw [scanned] at disposed
    exact disposed
  next scanned =>
    rw [scanned] at disposed
    exact disposed

theorem validJoin_scan {delivery : Delivery} {encryptedId : EncryptedId}
    (valid : validJoin encryption delivery = some encryptedId) :
    scan encryption delivery = (.adding encryptedId, true) := by
  have decodable : ¬ Undecodable encryption delivery := by
    intro undecodable
    obtain ⟨error, thrown⟩ := scan_undecodable undecodable
    rw [validJoin, thrown] at valid
    cases valid
  have disposed := scan_decodable decodable
  unfold validJoin at valid
  split at valid
  next other accepted =>
    split at valid <;> cases valid
    exact Prod.ext accepted disposed
  next => cases valid

theorem listen_valid {delivery : Delivery} {encryptedId : EncryptedId}
    (valid : validJoin encryption delivery = some encryptedId) :
    listen encryption {} delivery = { disposed := true, loading := true, joins := [encryptedId] } := by
  simp [Systems.Scanner.listen, validJoin_scan valid]

theorem listen_all_undecodable {deliveries : List Delivery}
    (undecodable : ∀ delivery ∈ deliveries, Undecodable encryption delivery) :
    deliveries.foldl (listen encryption) {} = {} := by
  induction deliveries with
  | nil => rfl
  | cons delivery deliveries ih =>
    rw [List.foldl_cons, listen_undecodable (undecodable delivery List.mem_cons_self)]
    exact ih fun other member => undecodable other (List.mem_cons_of_mem _ member)

theorem beforeJoin_append {earlier : List Delivery} (none : earlier.findSome? (validJoin encryption) = none)
    (later : List Delivery) : beforeJoin encryption (earlier ++ later) = earlier ++ beforeJoin encryption later := by
  apply List.takeWhile_append_of_pos
  intro delivery member
  rw [List.findSome?_eq_none_iff.mp none delivery member]
  rfl

theorem beforeJoin_split {deliveries : List Delivery} {delivery : Delivery}
    (member : delivery ∈ beforeJoin encryption deliveries) :
    ∃ earlier later, deliveries = earlier ++ delivery :: later ∧
      ∀ other ∈ earlier ++ [delivery], validJoin encryption other = none := by
  obtain ⟨earlier, between, split⟩ := List.append_of_mem member
  refine ⟨earlier, between ++ deliveries.dropWhile fun delivery => (validJoin encryption delivery).isNone, ?_, ?_⟩
  · rw [← List.cons_append, ← List.append_assoc, ← split, beforeJoin, List.takeWhile_append_dropWhile]
  · intro other inside
    have before : other ∈ beforeJoin encryption deliveries := by
      rw [split]
      simp only [List.mem_append, List.mem_cons, List.not_mem_nil, or_false] at inside ⊢
      rcases inside with first | last
      · exact Or.inl first
      · exact Or.inr (Or.inl last)
    have invalid := List.mem_takeWhile_imp (p := fun delivery => (validJoin encryption delivery).isNone) before
    exact Option.isNone_iff_eq_none.mp invalid

/-- The scanner is orderly exactly when no code before the first valid one decrypts. -/
theorem scanner_orderly_iff (encryption : Encryption) (deliveries : List Delivery) :
    Orderly encryption deliveries ↔ ∀ delivery ∈ beforeJoin encryption deliveries, Undecodable encryption delivery := by
  constructor
  · intro orderly delivery member
    by_contra decodable
    obtain ⟨earlier, later, whole, invalid⟩ := beforeJoin_split member
    -- Before this code the scanner is as it was, after it the controller is disposed.
    have before := orderly.usable earlier _ whole
      (List.findSome?_eq_none_iff.mpr fun other inside => invalid other (List.mem_append_left _ inside))
    have after := orderly.usable (earlier ++ [delivery]) later (by rw [List.append_assoc]; exact whole)
      (List.findSome?_eq_none_iff.mpr invalid)
    unfold listenAll at before after
    rw [List.foldl_append, before, List.foldl_cons, List.foldl_nil] at after
    have disposed := listen_decodable decodable
    rw [after] at disposed
    cases disposed
  · intro undecodable
    refine ⟨?_, ?_⟩
    · intro earlier later split none
      rw [split, beforeJoin_append none] at undecodable
      exact listen_all_undecodable fun delivery member => undecodable delivery (List.mem_append_left _ member)
    · cases joined : deliveries.findSome? (validJoin encryption) with
      | none =>
        have every := beforeJoin_append joined []
        rw [List.append_nil] at every
        rw [every] at undecodable
        rw [listenAll, listen_all_undecodable fun delivery member => undecodable delivery (List.mem_append_left _ member)]
        rfl
      | some encryptedId =>
        obtain ⟨earlier, delivery, later, split, valid, none⟩ := List.findSome?_eq_some_iff.mp joined
        rw [split, beforeJoin_append (List.findSome?_eq_none_iff.mpr none)] at undecodable
        have kept := listen_all_undecodable fun other member => undecodable other (List.mem_append_left _ member)
        rw [listenAll, split, List.foldl_append, kept, List.foldl_cons, listen_valid valid,
          listen_all_disposed encryption rfl]
        rfl

def code (qrCreated : DateTime) : String := Encryption.counterMode.encrypted (qrCode TimeZone.utc "c1" qrCreated 2)

def stampedAt (seconds : Fin 1000000) : DateTime := ⟨seconds.val * 1000000, by unfold maxMicroseconds; omega⟩

def expired : Delivery := ⟨TimeZone.utc, stampedAt 40, stampedAt 40, some (code (stampedAt 0))⟩

def fresh : Delivery := ⟨TimeZone.utc, stampedAt 42, stampedAt 42, some (code (stampedAt 30))⟩

def joining : EncryptedId := ⟨["c1", (stampedAt 30).text TimeZone.utc, intText 2]⟩

theorem expired_code_blocks : ¬ ∀ encryption deliveries, Orderly encryption deliveries := by
  intro always
  have plain : '*' ∉ "c1".toList := by decide
  have scanned := @scan_qrCode .counterMode Encryption.counterMode_roundTrips TimeZone.utc TimeZone.utc "c1" plain
  have rejected : scan .counterMode expired = (.expired, true) := by
    have decided := @scanned (stampedAt 0) 2 (by decide) (stampedAt 40) (stampedAt 40)
    rw [if_neg (by decide)] at decided
    unfold scan expired code
    exact decided
  have accepted : scan .counterMode fresh = (.adding joining, true) := by
    have decided := @scanned (stampedAt 30) 2 (by decide) (stampedAt 42) (stampedAt 42)
    rw [if_pos (by decide)] at decided
    unfold scan fresh code
    exact decided
  have blocked : (listenAll .counterMode [expired, fresh]).joins = [] := by
    simp [listenAll, Systems.Scanner.listen, rejected]
  have first : validJoin .counterMode expired = none := by rw [validJoin, rejected]
  have second : validJoin .counterMode fresh = some joining := by
    have shares : joining.getShares = .ok 2 := by
      rw [joining, EncryptedId.getShares_parts, parseInt_intText (by decide)]
    rw [validJoin, accepted]
    dsimp only
    rw [shares]
    rfl
  have joins := (always .counterMode [expired, fresh]).joins
  rw [blocked, List.findSome?_cons, first, List.findSome?_cons, second] at joins
  cases joins

end Clubzey.Proofs.ScannerUse
