import NcnProgram.Closing.OwnEpoch
import NcnProgram.Ncn.Isolation

/-!
# The ledger of an NCN

A ledger holds the accounts of all NCNs and of all their epochs. What `Runtime.Reached` says of it, that the accounts
of every epoch were brought about by the program's instructions, is what the calls on the NCNs give: whatever they
are, in whatever order, those included that name one epoch and empty the state of another.
-/

namespace NcnProgram
open Lib

namespace Runtime
variable {rt : Runtime} {l : Ledger}

/-- The ledger's accounts of all epochs of the NCN are those of the state. -/
structure ShowsNcn (rt : Runtime) (l : Ledger) (ncn : Pubkey) (s : Ncn) : Prop where
  epochs : ∀ epoch, Shows rt l ncn epoch (s.view epoch)

/-- If the ledger shows, for every NCN, accounts that some calls lead to from nothing, then its epochs were brought
about by the program's instructions. -/
theorem reached_of_runs (hinj : Set.InjOn rt.pda { a | (l (rt.pda a)).owner = rt.programId })
    (hplaced : ∀ k, (l k).owner = rt.programId → (l k).data.discriminator = some EpochState.discriminator →
      ∃ ncn epoch, k = rt.pda (.epochState ncn epoch))
    (hncns : ∀ ncn, ∃ (cl : Cluster) (calls : List Ncn.Call) (s₀ s : Ncn), s₀.Untouched ∧
      (calls.forM (Ncn.exec cl)).run s₀ = .ok () s ∧ ShowsNcn rt l ncn s) : Reached rt l where
  collisionFree := hinj
  placed := hplaced
  epochs ncn epoch := by
    obtain ⟨cl, calls, s₀, s, h₀, hrun, hs⟩ := hncns ncn
    obtain ⟨l₀, hl₀, hsteps⟩ := Ncn.epochs_reached h₀ hrun epoch
    exact ⟨cl, l₀, s.view epoch, hl₀, hsteps, hs.epochs epoch⟩

/-- The state of an epoch that its own instructions have brought about knows of the operators' accounts. -/
lemma Shows.knows {ncn : Pubkey} {epoch : ℕ} {cl : Cluster} {s₀ s : Lifecycle} (hs : Shows rt l ncn epoch s)
    (h₀ : s₀.Untouched) (hrun : Run (Lifecycle.Step cl) s₀ s) (hlive : s.epochState = true) :
    Knows rt l ncn epoch s.accounts.epochState := by
  have hb := Lifecycle.live_book h₀ hrun hlive
  constructor
  · intro operator d hd hdne
    rw [hs.operatorSnapshot] at hd
    obtain ⟨t, ht, rfl⟩ := Option.map_eq_some_iff.1 hd
    cases (hb.snapshot.status t.ncnOperatorIndex .dne hdne).2 ⟨operator, congrArg (Option.map _) ht⟩
  · intro operator d hd hdne
    rw [hs.operatorVaultRewardRouter] at hd
    obtain ⟨r, hr, rfl⟩ := Option.map_eq_some_iff.1 hd
    cases (hb.router.status r.ncnOperatorIndex .dne hdne).2 ⟨operator, congrArg (Option.map _) hr⟩

end Runtime

/-! ## A state that was emptied and created again -/

/-- The calls on a small NCN that create the state of its epoch 0 and, if it comes `again`, empty it by a call for
another NCN and create it once more. -/
def Ncn.smallAgainCalls (again : Bool) : List Call :=
  smallSetup.take 1 ++ smallCalls (.onEpoch 0 (.initializeEpochState ⟨1, 0⟩ 0) ::
    if again then [.closeOtherEpochState ⟨1, 0⟩ none 0, .onEpoch 0 (.initializeEpochState ⟨2, 0⟩ 0)] else [])

/-- What they lead to. -/
@[irreducible] def Ncn.smallAgain (again : Bool) : Ncn :=
  commit ((smallAgainCalls again).forM (exec Lifecycle.smallCluster)) small

/-- All of them succeed. -/
lemma Ncn.smallAgain_run (again : Bool) :
    ((smallAgainCalls again).forM (exec Lifecycle.smallCluster)).run small = .ok () (smallAgain again) := by
  unfold smallAgain
  cases again <;> exact Succeeds.run_eq (by decide +kernel)

/-- Only the state of epoch 0 has been written. -/
lemma Ncn.smallAgain_epochs (again : Bool) :
    ∃ l : Lifecycle, (smallAgain again).epochs = Function.update (fun _ => .small) 0 l ∧
      l.single = Lifecycle.small.single ∧
      l.accounts.operatorSnapshot = Lifecycle.small.accounts.operatorSnapshot ∧
      l.accounts.operatorVaultRewardRouter = Lifecycle.small.accounts.operatorVaultRewardRouter := by
  cases again with
  | false =>
    unfold smallAgain
    exact ⟨_, rfl, rfl, rfl, rfl⟩
  | true =>
    obtain ⟨a, b, c, hepochs, hsame⟩ : ∃ a b c, (smallAgain true).epochs =
        Function.update (Function.update (Function.update (fun _ => .small) 0 a) 0 b) 0 c ∧
        c.single = Lifecycle.small.single ∧
        c.accounts.operatorSnapshot = Lifecycle.small.accounts.operatorSnapshot ∧
        c.accounts.operatorVaultRewardRouter = Lifecycle.small.accounts.operatorVaultRewardRouter := by
      unfold smallAgain
      exact ⟨_, _, _, rfl, rfl, rfl, rfl⟩
    rw [Function.update_idem, Function.update_idem] at hepochs
    exact ⟨c, hepochs, hsame⟩

namespace Runtime
open Lifecycle

variable {again : Bool}

/-- A ledger with the configuration of the small NCN and the state. -/
def smallAgainLedger (again : Bool) : Ledger := fun k =>
  if k = 100 then ⟨5, 99, .epochState ((Ncn.smallAgain again).view 0).accounts.epochState⟩
  else if k = 102 then ⟨5, 99, .config (Ncn.smallAgain again).config⟩
  else .empty

/-- The program owns two accounts. -/
lemma smallAgain_owned {k : Pubkey} (h : (smallAgainLedger again k).owner = 99) : k = 100 ∨ k = 102 := by
  unfold smallAgainLedger at h
  split at h
  · exact .inl ‹_›
  split at h
  · exact .inr ‹_›
  · exact absurd h (by decide)

/-- They are at the addresses of the state and of the configuration. -/
lemma smallAgain_address {a : Address} (h : (smallAgainLedger again (smallPda a)).owner = 99) :
    a = .epochState 1 0 ∨ a = .config 1 := by
  have hkey := smallAgain_owned h
  rcases smallPda_eq (hkey.imp_right .inr) with ha | rfl | ha
  · exact .inl ha
  · exact absurd hkey (by decide)
  · exact .inr ha

/-- Nothing is at its addresses but the state and the configuration. -/
lemma smallAgain_dataAt {a : Address} (h₀ : a ≠ .epochState 1 0) (h₁ : a ≠ .config 1) :
    smallRuntime.dataAt (smallAgainLedger again) a = none := by
  refine if_neg fun h => ?_
  rcases smallAgain_address h with ha | ha
  · exact h₀ ha
  · exact h₁ ha

/-- So no epoch has anything but a state. -/
lemma smallAgain_allGone (ncn : Pubkey) (epoch : ℕ) : AllGone smallRuntime (smallAgainLedger again) ncn epoch :=
  ⟨fun _ => smallAgain_dataAt (by simp) (by simp), fun _ => smallAgain_dataAt (by simp) (by simp),
    fun _ => smallAgain_dataAt (by simp) (by simp)⟩

/-- The small NCN is what the ledger shows. -/
lemma smallAgain_shows (again : Bool) : ShowsNcn smallRuntime (smallAgainLedger again) 1 (Ncn.smallAgain again) := by
  obtain ⟨e, hepochs, hsingle, hsnapshot, hrouter⟩ := Ncn.smallAgain_epochs again
  constructor
  intro epoch
  have hncn : (Ncn.smallAgain again).config.ncn = 1 := by cases again <;> decide +kernel
  by_cases hzero : epoch = 0
  · subst hzero
    have he : (Ncn.smallAgain again).epochs 0 = e := by rw [hepochs, Function.update_self]
    refine (smallAgain_allGone 1 0).shows hncn rfl ⟨fun k => ?_, fun p => ?_, fun p => ?_⟩ ?_
    · show ((Ncn.smallAgain again).epochs 0).single k = .absent
      rw [he, hsingle]
      rfl
    · show (((Ncn.smallAgain again).epochs 0).accounts.operatorSnapshot p).map _ = none
      rw [he, hsnapshot]
      rfl
    · show (((Ncn.smallAgain again).epochs 0).accounts.operatorVaultRewardRouter p).map _ = none
      rw [he, hrouter]
      rfl
    · rw [show ((Ncn.smallAgain again).view 0).epochState = true by cases again <;> decide +kernel]
      rfl
  · have he : (Ncn.smallAgain again).epochs epoch = .small := by rw [hepochs, Function.update_of_ne hzero]
    have hview : ((Ncn.smallAgain again).view epoch).Untouched := by
      rw [Ncn.view, he]
      exact { small_untouched with }
    refine (smallAgain_allGone 1 epoch).shows hncn rfl (untouched_allClosed hview) ?_
    rw [smallAgain_dataAt (by simpa using hzero) (by simp), hview.epochState]
    rfl

/-- The ledger is one that the program's instructions brought about, also if the state was emptied in between. -/
theorem reached_of_runs_small : Reached smallRuntime (smallAgainLedger true) := by
  refine reached_of_runs ?_ ?_ fun ncn => ?_
  · intro a ha b hb hab
    rcases smallAgain_address ha with rfl | rfl <;> rcases smallAgain_address hb with rfl | rfl <;>
      first | rfl | exact absurd hab (by decide)
  · intro k hk hd
    rcases smallAgain_owned hk with rfl | rfl
    · exact ⟨1, 0, rfl⟩
    · exact absurd hd (by decide +kernel)
  · by_cases hone : ncn = 1
    · subst hone
      exact ⟨smallCluster, _, _, _, Ncn.small_untouched, Ncn.smallAgain_run true, smallAgain_shows true⟩
    · -- of another NCN nothing is there
      let s : Ncn := { Ncn.small with ncn, config := { Ncn.small.config with ncn } }
      have hs : s.Untouched := { Ncn.small_untouched with }
      have hview : ∀ epoch, (s.view epoch).Untouched := fun epoch => { hs.epochs epoch with }
      refine ⟨smallCluster, [], s, s, hs, rfl, ⟨fun epoch => ?_⟩⟩
      refine (smallAgain_allGone ncn epoch).shows rfl rfl (untouched_allClosed (hview epoch)) ?_
      rw [smallAgain_dataAt (by simpa using fun h => absurd h hone) (by simp), (hview epoch).epochState]
      rfl

end Runtime
end NcnProgram
