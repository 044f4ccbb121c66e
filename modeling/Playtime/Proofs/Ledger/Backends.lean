import Playtime.Backend
import Playtime.Proofs.Ledger.Files
import Playtime.Proofs.Ledger.Relational

namespace Playtime.Backend

open LawfulLedger (Sound IsOpen balance)

def SoundTimes : Backend × Host → Prop
  | (files _ times, host) => Sound (times, host.disk)
  | (relational store, host) => Sound (store, host)
  | (mixed _ store, host) => Sound (store, host)

def TimesOpen : Backend × Host → Prop
  | (files _ times, host) => IsOpen (times, host.disk)
  | (relational store, host) => IsOpen (store, host)
  | (mixed _ store, host) => IsOpen (store, host)

instance (state : Backend × Host) : Decidable (TimesOpen state) :=
  match state with
  | (files _ times, _) => inferInstanceAs (Decidable (times.isOpen = true))
  | (relational _, _) | (mixed _ _, _) => inferInstanceAs (Decidable (_ = true ∧ _ = true))

def keptTimes : Backend × Host → PlayerId → Int
  | (files _ times, host), id => balance (times, host.disk) id
  | (relational store, host), id => balance (store, host) id
  | (mixed _ store, host), id => balance (store, host) id

theorem credit_single (state : Backend × Host) (id : PlayerId) (delta : Int64) :
    Ledger.credit state id delta = Ledger.creditAll state [(id, delta)] := by
  obtain ⟨backend, host⟩ := state
  cases backend with
  | files names times =>
    have inner := LawfulLedger.credit_eq (times, host.disk) id delta
    simp only [Ledger.credit, Ledger.creditAll] at inner ⊢
    rw [inner]
  | relational store => rfl
  | mixed names store => rfl

instance : LawfulLedger (Backend × Host) where
  Sound := SoundTimes
  IsOpen := TimesOpen
  balance := keptTimes
  credit_eq := credit_single
  sound_creditAll state deltas sound := by
    obtain ⟨backend, host⟩ := state
    cases backend with
    | files names times => exact trivial
    | relational store => exact LawfulLedger.sound_creditAll (store, host) deltas sound
    | mixed names store => exact LawfulLedger.sound_creditAll (store, host) deltas sound
  sound_close state sound := by
    obtain ⟨backend, host⟩ := state
    cases backend <;> exact sound
  isOpen_creditAll state deltas := by
    obtain ⟨backend, host⟩ := state
    cases backend with
    | files names times => exact LawfulLedger.isOpen_creditAll (times, host.disk) deltas
    | relational store => exact LawfulLedger.isOpen_creditAll (store, host) deltas
    | mixed names store => exact LawfulLedger.isOpen_creditAll (store, host) deltas
  balance_accepted state deltas sound accepted id := by
    obtain ⟨backend, host⟩ := state
    cases backend with
    | files names times => exact LawfulLedger.balance_accepted (times, host.disk) deltas sound accepted id
    | relational store => exact LawfulLedger.balance_accepted (store, host) deltas sound accepted id
    | mixed names store => exact LawfulLedger.balance_accepted (store, host) deltas sound accepted id
  balance_refused state deltas error refused id := by
    obtain ⟨backend, host⟩ := state
    cases backend with
    | files names times => exact LawfulLedger.balance_refused (times, host.disk) deltas error refused id
    | relational store => exact LawfulLedger.balance_refused (store, host) deltas error refused id
    | mixed names store => exact LawfulLedger.balance_refused (store, host) deltas error refused id
  balance_close state id := by
    obtain ⟨backend, host⟩ := state
    cases backend <;> rfl
  balance_of_seconds? state id stored read := by
    obtain ⟨backend, host⟩ := state
    cases backend with
    | files names times => exact LawfulLedger.balance_of_seconds? (times, host.disk) id stored read
    | relational store => exact LawfulLedger.balance_of_seconds? (store, host) id stored read
    | mixed names store => exact LawfulLedger.balance_of_seconds? (store, host) id stored read
  seconds?_of_isOpen state id isOpen fits := by
    obtain ⟨backend, host⟩ := state
    cases backend with
    | files names times => exact LawfulLedger.seconds?_of_isOpen (times, host.disk) id isOpen fits
    | relational store => exact LawfulLedger.seconds?_of_isOpen (store, host) id isOpen fits
    | mixed names store => exact LawfulLedger.seconds?_of_isOpen (store, host) id isOpen fits

end Playtime.Backend
