import Clubzey.Views.PaymentDetailsPage

/-! Whether the documents of two payments can share a key. Of the identifier drawn
for a payment the key keeps five characters, and of the clock the millisecond. -/

namespace Clubzey.Proofs.PaymentKeys
open Dart Models Views Foundation

/-- After any part of the payments each has its own document, and the key of the
next is unused. -/
def NeverOverwrites (payments : List Payment) : Prop :=
  ∀ done rest, payments = done ++ rest → ∃ transactions, onDoneAll done = .ok transactions ∧
    transactions.size = done.length ∧
    (∀ payment ∈ done, transactions.doc payment.id = some payment.clubTransaction.data) ∧
    ∀ payment ∈ rest.head?, transactions.doc payment.id = none

/-- What the key keeps of a payment differs. -/
def Apart (first second : Payment) : Prop :=
  first.uuid.substring 5 ≠ second.uuid.substring 5 ∨ first.stampedAt.millisecond ≠ second.stampedAt.millisecond

theorem apart_iff (first second : Payment) : Apart first second ↔ first.id ≠ second.id := by
  rw [Apart, ← not_and_or, not_iff_not]
  constructor
  · rintro ⟨drawn, clock⟩
    rw [Payment.id, Payment.id, drawn, clock]
  · intro same
    have texts := congrArg String.toList same
    simp only [Payment.id, String.toList_ofList] at texts
    have lengths : (first.uuid.substring 5).length = (second.uuid.substring 5).length := by
      rw [Uuid.length_substring _ (by decide), Uuid.length_substring _ (by decide)]
    obtain ⟨drawn, digits⟩ := List.append_inj texts lengths
    refine ⟨drawn, ?_⟩
    have values := congrArg Decimal.value digits
    rwa [Decimal.value_toDigits, Decimal.value_toDigits] at values

private theorem distinct_entries {payments : List Payment} (apart : payments.Pairwise Apart) :
    (payments.map Payment.entry).Pairwise fun first second => first.1 ≠ second.1 := by
  rw [List.pairwise_map]
  exact apart.imp fun {first second} differ => (apart_iff first second).mp differ

private theorem apart_safe {payments : List Payment} (apart : payments.Pairwise Apart) : NeverOverwrites payments := by
  intro done rest split
  subst payments
  obtain ⟨apartDone, _, across⟩ := List.pairwise_append.mp apart
  have distinct := distinct_entries apartDone
  refine ⟨_, onDoneAll_setAll done, ?_, ?_, ?_⟩
  · rw [Collection.size_setAll distinct fun _ _ => Collection.doc_empty _]
    simp
  · intro payment member
    have written : payment.entry ∈ done.map Payment.entry := List.mem_map_of_mem member
    exact @Collection.doc_setAll_member _ ∅ _ payment.entry distinct written
  · intro payment next
    have later := List.mem_of_head? next
    rw [Collection.doc_setAll_unnamed, Collection.doc_empty]
    intro entry member
    obtain ⟨earlier, inDone, rfl⟩ := List.mem_map.mp member
    exact (apart_iff earlier payment).mp (across earlier inDone payment later)

private theorem safe_apart {payments : List Payment} (safe : NeverOverwrites payments) : payments.Pairwise Apart := by
  rw [List.pairwise_iff_getElem]
  intro i j inside within before
  rw [apart_iff]
  intro same
  obtain ⟨transactions, ran, _, _, unused⟩ := safe (payments.take j) (payments.drop j) (List.take_append_drop j _).symm
  have next : payments[j] ∈ (payments.drop j).head? := by
    simp [List.head?_drop, within]
  have earlier : payments[i] ∈ payments.take j := List.mem_take_iff_getElem.mpr ⟨i, by omega, rfl⟩
  rw [onDoneAll_setAll] at ran
  cases ran
  have written : payments[i].entry ∈ (payments.take j).map Payment.entry := List.mem_map_of_mem earlier
  have named := @Collection.doc_setAll_named _ ∅ _ _ written
  have free := unused _ next
  rw [← same] at free
  exact named free

/-- Exactly when no payment of a sequence overwrites another. -/
theorem never_overwrites_iff (payments : List Payment) : NeverOverwrites payments ↔ payments.Pairwise Apart :=
  ⟨safe_apart, apart_safe⟩

def annsUuid : Uuid := ⟨"3f2a97c1-0d5e-4b60-9a7e-1c2d3e4f5a6b", by decide⟩

def bobsUuid : Uuid := ⟨"3f2a9e08-66b1-4c3d-8f10-a0b1c2d3e4f5", by decide⟩

def noon : DateTime := ⟨1646136000000000, DateTime.march_inRange⟩

def nextNoon : DateTime := ⟨1646222407000000, by decide⟩

def annsPayment : Payment := ⟨"c1", Double.ofInt 100, "ann@example.com", annsUuid, noon, noon⟩

def bobsPayment : Payment := ⟨"c2", Double.ofInt 250, "bob@example.com", bobsUuid, nextNoon, nextNoon⟩

/-- Payments in two clubs, on two days, for which different identifiers were drawn. -/
theorem second_payment_overwrites : ¬ ∀ payments : List Payment,
    payments.Pairwise (fun first second => first.uuid ≠ second.uuid) → NeverOverwrites payments := by
  intro always
  have drawn : annsUuid ≠ bobsUuid := by
    intro same
    exact absurd (congrArg Uuid.text same) (by decide)
  have differ : [annsPayment, bobsPayment].Pairwise fun first second => first.uuid ≠ second.uuid := by
    simpa [annsPayment, bobsPayment] using drawn
  obtain ⟨apart, _⟩ := List.pairwise_cons.mp (safe_apart (always _ differ))
  rcases apart bobsPayment List.mem_cons_self with drawnApart | clockApart
  · exact drawnApart (by decide)
  · exact clockApart (by decide)

end Clubzey.Proofs.PaymentKeys
