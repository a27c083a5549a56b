import AlmController.CpiWire
import AlmController.Simulator.Drift
import AlmController.Spec.Accounted

/-!
# What was signed can be read

The record that a chain keeps of an invocation is bytes: a program, accounts, data. The log of the
model has the invocations themselves. The two say the same. Whoever reads the bytes of something
that a controller signed for gets back the invocation that the program meant, and there is no
other with these bytes: the instructions of one program differ in their discriminators, and what
follows is as long as it should be. So what is proved of the invocations, that they go where a
configuration says, can be checked by who has nothing but the bytes.

`signed_bytes_readable` is about every invocation that a controller signed, in any state that was
reached, and about the bytes that the source writes for it. That another program reads the same
from them is that program's affair.
-/

namespace AlmController

open Prog

variable [Chain]

variable {w : World} {ck : Pubkey} {call : Cpi} {raw : RawInstruction}
  {info : Pubkey → Bool × Bool}

omit [Chain] in
/-- Only a harvest has a number that may not fit, the index of the reward. -/
theorem Cpi.Fits.of_isQuiet (h : call.isQuiet = true) : call.Fits := by
  cases call with
  | harvestReward => cases h
  | _ => trivial

/-- What a configuration allows can be written. -/
theorem Cpi.Obeys.fits {config : IntegrationConfig} {authority caller : Pubkey} {r : Reserve}
    (h : call.Obeys config authority caller r) : call.Fits := by
  cases call with
  | harvestReward ix =>
    cases config with
    | Kamino cfg => exact h.2.2.1.trans (by decide)
    | _ => cases h
  | _ => trivial

/-- So whatever went where a configuration says can be written. -/
theorem Cpi.Configured.fits (h : call.Configured w ck) : call.Fits := by
  cases h with
  | intro _ _ _ _ _ _ hobeys => exact hobeys.fits

/-- **The bytes that a controller signed for can be read.** They give back the invocation that is
    in the log, whoever it was sent to; no other invocation has these bytes; and if it may move
    tokens, what is read goes where an integration of the controller says. -/
theorem signed_bytes_readable (h : Reachable w) (hmem : .cpi call (some ck) ∈ w.log)
    (hraw : call.raw? info = some raw) :
    raw.read = some call ∧
      (∀ {other : Cpi} {info' : Pubkey → Bool × Bool}, other.Fits →
        other.raw? info' = some raw → other = call) ∧
      (call.isQuiet = false → call.Configured w ck) := by
  obtain ⟨ck', hauthentic⟩ := h.accounted.authentic _ hmem
  have hconfigured : call.isQuiet = false → call.Configured w ck := by
    cases hauthentic with
    | signed _ hconfigured => exact hconfigured
  have hfits : call.Fits := by
    cases hquiet : call.isQuiet with
    | true => exact .of_isQuiet hquiet
    | false => exact (hconfigured hquiet).fits
  have hread : raw.read = some call := read_raw hfits hraw
  refine ⟨hread, ?_, hconfigured⟩
  intro other info' hother hsame
  have hreadOther := read_raw hother hsame
  rw [hread] at hreadOther
  exact (Option.some.inj hreadOther).symm

end AlmController

namespace AlmController

open Simulator

/-- The deposit that the example signed for. -/
def signedDeposit : DriftTransfer where
  state := driftStateKey
  user := driftUserKey
  userStats := driftUserStatsKey
  authority := authorityKey
  spotMarketVault := driftVaultKey
  userTokenAccount := vaultKey mintA
  tokenProgram := TOKEN_PROGRAM_ID
  remainingAccounts := [driftMarketKey, feed]
  marketIndex := 0
  amount := 100
  reduceOnly := false

/-- Its bytes are read back. -/
theorem signed_bytes_readable_deposit :
    ∃ raw, (Cpi.driftDeposit signedDeposit).raw? (fun _ => (false, true)) = some raw ∧
      raw.read = some (.driftDeposit signedDeposit) := by
  obtain ⟨steps, htrace, -, -⟩ :=
    @pushStep_run 10000000000 (by decide +kernel)
  have hreachable : Reachable (lentAt 10000000000) :=
    ⟨_, _, genesis_genesis (driftAccounts_unassociated _), htrace⟩
  have hmem : .cpi (.driftDeposit signedDeposit) (some controllerKey) ∈
      (lentAt 10000000000).log := by decide +kernel
  exact ⟨_, rfl, (signed_bytes_readable hreachable hmem rfl).1⟩

end AlmController
