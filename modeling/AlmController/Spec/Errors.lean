import AlmController.Spec.Access

/-!
# Errors of the flow updates

Three errors are the flow updates' own: the limiter was not refreshed at this clock, the
limit is used up, and the recorded balance would go below zero. What every processor uses
(loading, saving, reading token accounts, invoking, emitting) stops with none of them, so
whether an instruction can is a question about its flow updates.
-/

namespace AlmController

open Prog

/-- The errors of `inflow` and `outflow` that are about the amount or the clock. -/
inductive FlowError : Error → Prop
  | notRefreshed : FlowError (.program .InvalidArgument)
  | rateLimited : FlowError SvmAlmControllerErrors.RateLimited
  | underflow : FlowError (.panic .lastBalanceSub)

/-- Whether it is one of them. -/
def Error.isFlowError : Error → Bool
  | .program .InvalidArgument => true
  | .program (.Custom .RateLimited) => true
  | .panic .lastBalanceSub => true
  | _ => false

theorem FlowError.isFlowError {e : Error} (h : FlowError e) : e.isFlowError = true := by
  cases h <;> rfl

/-- Another error is another error. -/
theorem FlowError.ne {e e' : Error} (h : FlowError e) (h' : e'.isFlowError = false) : e' ≠ e := by
  rintro rfl
  rw [h.isFlowError] at h'
  cases h'

variable {e : Error}

/-! ## Accounts of an instruction -/

theorem FlowError.checkAttrs (he : FlowError e) {account : AccountMeta} :
    ∀ attrs, Avoids e (checkAttrs account attrs)
  | [] => .pure
  | .writable :: attrs => .bind (.rejectIf (he.ne rfl)) fun _ => he.checkAttrs attrs
  | .signer :: attrs => .bind (.rejectIf (he.ne rfl)) fun _ => he.checkAttrs attrs
  | .empty :: attrs =>
    .bind (.bind .read fun _ => .rejectIf (he.ne rfl)) fun _ => he.checkAttrs attrs

theorem FlowError.checkAccounts (he : FlowError e) :
    ∀ specs accounts, Avoids e (checkAccounts specs accounts)
  | [], _ => .pure
  | _ :: _, [] => .fail (he.ne rfl)
  | spec :: specs, _ :: accounts =>
    .bind (.bind (he.checkAttrs spec.attrs) fun _ => .bind (.rejectIf (he.ne rfl)) fun _ =>
      .bind .read fun _ => .rejectIf (he.ne rfl)) fun _ => he.checkAccounts specs accounts

theorem FlowError.fromAccounts (he : FlowError e) {α : Type} {specs : List AccountSpec}
    {bind : List AccountMeta → Option α} {accounts : List AccountMeta} :
    Avoids e (fromAccounts specs bind accounts) :=
  .bind (he.checkAccounts specs accounts) fun _ => .ofOption (he.ne rfl)

theorem FlowError.parseArgs (he : FlowError e) {α : Type} [Borsh α] {data : List UInt8} :
    Avoids e (parseArgs α data) :=
  .ofOption (he.ne rfl)

/-! ## Reading -/

theorem FlowError.readData (he : FlowError e) {α : Type} {k : Pubkey} {proj : ExtData → Option α} :
    Avoids e (readData k proj) :=
  .bind .read fun _ => .ofOption (he.ne rfl)

theorem FlowError.tokenAccount (he : FlowError e) {k : Pubkey} :
    Avoids e (TokenAccount.fromAccountInfo k) :=
  .bind .read fun _ => .bind (.rejectIf (he.ne rfl)) fun _ => .bind he.readData fun _ =>
    .bind (.rejectIf (he.ne rfl)) fun _ => .bind (.rejectIf (he.ne rfl)) fun _ => .pure

theorem FlowError.mint (he : FlowError e) {k : Pubkey} : Avoids e (Mint.fromAccountInfo k) :=
  .bind .read fun _ => .bind (.rejectIf (he.ne rfl)) fun _ => .bind he.readData fun _ =>
    .bind (.rejectIf (he.ne rfl)) fun _ => .bind (.rejectIf (he.ne rfl)) fun _ =>
      .bind (.onlyIf (.bind (.ofOption (he.ne rfl)) fun _ => .bind (.rejectIf (he.ne rfl)) fun _ =>
        .rejectIf (he.ne rfl))) fun _ => .bind (.ofOption (he.ne rfl)) fun _ => .pure

section Loading

theorem FlowError.loadKeel (he : FlowError e) {α : Type} {account : AccountMeta}
    {proj : KeelAccount → Option α} : Avoids e (loadKeel account proj) :=
  .bind .read fun _ => .bind (.ofOption (he.ne rfl)) fun _ => .ofOption (he.ne rfl)

variable [Chain] {account : AccountMeta} {ck authority : Pubkey}

theorem FlowError.findAddress (he : FlowError e) {seeds : List (List UInt8)} {program : Pubkey} :
    findAddress seeds program ≠ .error e :=
  okOr_ne (he.ne rfl)

theorem FlowError.verifyPda (he : FlowError e) {seeds : List (List UInt8)} :
    Avoids e (verifyPda account seeds) :=
  .bind (.ofExcept he.findAddress) fun _ => .rejectIf (he.ne rfl)

theorem FlowError.controller (he : FlowError e) :
    Avoids e (Controller.loadAndCheck account authority) :=
  .bind he.loadKeel fun _ => .bind he.verifyPda fun _ => .bind (.rejectIf (he.ne rfl)) fun _ => .pure

theorem FlowError.permission (he : FlowError e) :
    Avoids e (Permission.loadAndCheck account ck authority) :=
  .bind he.loadKeel fun _ => .bind (.ofExcept (except_bind_ne (check_ne (he.ne rfl)) fun _ =>
    check_ne (he.ne rfl))) fun _ => .bind he.verifyPda fun _ => .pure

theorem FlowError.reserve (he : FlowError e) :
    Avoids e (Reserve.loadAndCheck account ck) :=
  .bind he.loadKeel fun _ => .bind (.ofExcept (check_ne (he.ne rfl))) fun _ =>
    .bind he.verifyPda fun _ => .pure

theorem FlowError.integration (he : FlowError e) :
    Avoids e (Integration.loadAndCheck account ck) :=
  .bind he.loadKeel fun _ => .bind (.ofExcept (check_ne (he.ne rfl))) fun _ =>
    .bind he.verifyPda fun _ => .pure

theorem FlowError.oracle (he : FlowError e) {ck authority : Option Pubkey} :
    Avoids e (Oracle.loadAndCheck account ck authority) :=
  .bind he.loadKeel fun _ => .bind (.ofExcept (except_bind_ne (check_ne (he.ne rfl)) fun _ =>
    check_ne (he.ne rfl))) fun _ => .bind he.verifyPda fun _ => .pure

end Loading

/-! ## Writing -/

theorem FlowError.save (he : FlowError e) {account : AccountMeta} {data : KeelAccount} :
    Avoids e (save account data) :=
  .bind .read fun _ => .bind (.ofOption (he.ne rfl)) fun _ => .bind (.rejectIf (he.ne rfl)) fun _ =>
    .bind (.rejectIf (he.ne rfl)) fun _ => .modify

section Invoking

variable [Chain] {call : Cpi} {k authority : Pubkey} {c : Controller}

theorem FlowError.invokeWith (he : FlowError e) {signers : List Pubkey} {signedFor : Option Pubkey} :
    Avoids e (invokeWith call signers signedFor) :=
  .bind .read fun _ => .bind (.ofOption (he.ne rfl)) fun _ => .modify

theorem FlowError.invoke (he : FlowError e) : Avoids e (invoke call) := he.invokeWith

theorem FlowError.invokeSigned (he : FlowError e) : Avoids e (invokeSigned call k c) :=
  .bind (.ofOption (he.ne rfl)) fun _ => he.invokeWith

theorem FlowError.emitEvent (he : FlowError e) {event : SvmAlmControllerEvent} :
    Avoids e (emitEvent c authority k event) := by
  have hprocess : ∀ accounts data, Avoids e (processEmitEvent accounts data) := fun _ _ =>
    .bind (.ofOption (he.ne rfl)) fun _ => .bind (.ofOption (he.ne rfl)) fun _ =>
      .bind (.ofExcept he.findAddress) fun _ => .bind (.ofExcept he.findAddress) fun _ =>
        .bind (.rejectIf (he.ne rfl)) fun _ => .bind (.rejectIf (he.ne rfl)) fun _ =>
          .bind .read fun _ => .rejectIf (he.ne rfl)
  exact .bind (.ofOption (he.ne rfl)) fun _ => .bind (.rejectIf (he.ne rfl)) fun _ =>
    .bind (hprocess _ _) fun _ => .modify

end Invoking

/-! ## Inflows -/

section Inflows

variable {clock : Clock} {n : UInt64}

/-- On a limiter that is refreshed it does not fail. -/
theorem RateLimit.inflow_ne_error {l : RateLimit} (h : l.IsRefreshed clock) :
    l.inflow clock n ≠ .error e := by
  refine except_bind_ne (fun hcheck => ?_) fun _ => except_pure_ne
  exact (check_error.mp hcheck).1 h

/-- An inflow on a limiter that is refreshed stops with none of them. -/
theorem FlowError.reserveInflow (he : FlowError e) {r : Reserve}
    (h : r.toRateLimit.IsRefreshed clock) : Avoids e (r.recordInflow clock n) :=
  .bind (.ofExcept (except_bind_ne (RateLimit.inflow_ne_error h) fun _ =>
    except_bind_ne (okOr_ne (he.ne rfl)) fun _ => except_pure_ne)) fun _ =>
      .bind .modify fun _ => .pure

theorem Integration.recordInflow_avoids {i : Integration}
    (h : i.toRateLimit.IsRefreshed clock) : Avoids e (i.recordInflow clock n) :=
  .bind (.ofExcept (except_bind_ne (RateLimit.inflow_ne_error h) fun _ => except_pure_ne)) fun _ =>
    .bind .modify fun _ => .pure

end Inflows

end AlmController
