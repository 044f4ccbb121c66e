import Playtime.Proofs.Ledger.Files
import Playtime.Proofs.Sessions.Worth

namespace Playtime.Sessions

variable {σ : Type} [Ledger σ]

def gained (state : Sessions × σ) (id : PlayerId) (t : Int) : List Call → Int
  | [] => 0
  | call :: later => gain state call id t + gained (perform state call).2 id t later

variable [LawfulLedger σ]

/--
Along a run, whatever the ledger refuses, every call changes the milliseconds of every player by its gain and by
nothing else, and the run changes them by the gains of its calls together.
-/
theorem millis_conserved (state : Sessions × σ) (calls : List Call) (sound : LawfulLedger.Sound state.2)
    (unclipped : Throughout Unclipped state calls) (whole : Throughout Whole state calls) :
    Throughout (fun state call => ∀ id t,
      worth (perform state call).2 id t = worth state id t + gain state call id t) state calls ∧
    ∀ id t, worth (run state calls) id t = worth state id t + gained state id t calls := by
  induction calls generalizing state with
  | nil => exact ⟨trivial, fun id t => (Int.add_zero _).symm⟩
  | cons call calls ih =>
    have step := fun id t => worth_perform state call id t sound unclipped.1 whole.1
    obtain ⟨each, total⟩ := ih (perform state call).2 (ledger_perform sound_kept state call sound)
      unclipped.2 whole.2
    refine ⟨⟨step, each⟩, fun id t => ?_⟩
    have head := step id t
    have tail := total id t
    simp only [run, gained]
    omega

/-- The first write fails, so the flush credits the seconds of the stop with its own. -/
theorem millis_conserved_past_refusal :
    let player : PlayerId := ⟨7⟩
    let state := (empty, TimeFile.inWorkingDirectory [.refused])
    let calls : List Call := [.start player 0, .stop player 5500, .start player 6000, .add player 10,
      .flush 8500, .start player 9999, .addAll [(player, 4), (⟨8⟩, 3)], .stop player 11000]
    Throughout Unclipped state calls ∧ Throughout Whole state calls ∧
      worth (run state calls) player 20000 = worth state player 20000 + gained state player 20000 calls ∧
      gained state player 20000 calls = 23000 := by
  intro player state calls
  have unclipped : Throughout Unclipped state calls := by decide +kernel
  have whole : Throughout Whole state calls := by decide +kernel
  have conserved := (millis_conserved state calls trivial unclipped whole).2 player 20000
  exact ⟨unclipped, whole, conserved, by decide +kernel⟩

end Playtime.Sessions
