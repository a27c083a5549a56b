import AlmController.Codec

/-!
# Account data round trips

Three things must agree for an account to stay usable: the length its fields add up to,
the `LEN` written by hand beside the struct, and the space `init_account` asked for. If
one variant of one nested enumeration were padded to another length, every `save` of an
account in that variant would be refused, and the account could never leave it.

`Codec` has the lengths. What follows from them is that an account of one of the five
types is a value of that type and nothing else: any value can be saved over any other,
what was saved is what is read, and the bytes are of no other type.

`account_codec` is said of all five types and of every value of them, first of the bytes and then
of the program's own `save` and `load`. It is about one account, of the size that `init_account`
allocates. It does not say which accounts an instruction may write, nor that an account keeps its
type from one instruction to the next: the one is a matter of the instruction's own checks, and
the other of `accounts_keep_identity`.
-/

namespace AlmController

open Prog

variable {t : AccountType} {a : t.Data} {data : List UInt8}

/-- Nothing is left of what the account held before. -/
theorem AccountType.save_over (hlength : data.length = DISCRIMINATOR_SIZE + t.LEN) :
    t.save a ⟨ID, data⟩ = .ok ⟨ID, t.encode a⟩ :=
  AccountType.save_ok.mpr ⟨rfl, hlength, rfl⟩

/-- What is read back is what was written, whatever else the bytes might have been. -/
theorem AccountType.deserialize_encode : t.deserialize (t.encode a) = .ok a :=
  AccountType.deserialize_ok.mpr rfl

/-- A value is accepted from one byte string only, its own encoding. -/
theorem AccountType.length_of_deserialize (h : t.deserialize data = .ok a) :
    data.length = DISCRIMINATOR_SIZE + t.LEN := by
  rw [AccountType.deserialize_ok.mp h]
  exact AccountType.length_encode

/-- **Account codec.** Any value of any of the five types can be saved into an account of
    the size that `init_account` allocates, whatever that account holds: every byte is
    written, the bytes are read as that value, and are refused as any other type. What is
    accepted saves back to the same bytes. In the program's own terms, whatever an account
    of that size holds, a value saved to it is loaded from it, and as no other type. -/
theorem account_codec (t : AccountType) (a : t.Data) :
    (∀ data : List UInt8, data.length = DISCRIMINATOR_SIZE + t.LEN →
      ∃ saved, t.save a ⟨ID, data⟩ = .ok ⟨ID, saved⟩ ∧ saved.length = data.length ∧
        (∀ data', data'.length = data.length → t.save a ⟨ID, data'⟩ = .ok ⟨ID, saved⟩) ∧
        t.deserialize saved = .ok a ∧
        ∀ t' ≠ t, t'.deserialize saved = .error (.program .InvalidAccountData)) ∧
    (∀ data, t.deserialize data = .ok a → t.save a ⟨ID, data⟩ = .ok ⟨ID, data⟩) ∧
    ∀ (w : World) (account : AccountMeta) (old : KeelAccount),
      w.keel account.pubkey = some old → old.dataLen = DISCRIMINATOR_SIZE + t.LEN →
        account.isWritable = true →
          ∃ w', save account (t.pack a) w = .ok ((), w') ∧
            loadKeel account t.unpack w' = .ok (a, w') ∧
            ∀ t' ≠ t, loadKeel account t'.unpack w' = .error (.program .InvalidAccountData) := by
  refine ⟨?_, ?_, ?_⟩
  · intro data hlength
    refine ⟨t.encode a, AccountType.save_over hlength, ?_, ?_, AccountType.deserialize_encode, ?_⟩
    · rw [AccountType.length_encode, hlength]
    · intro data' hlength'
      exact AccountType.save_over (hlength'.trans hlength)
    · intro t' hne
      exact AccountType.deserialize_encode_ne hne
  · intro data h
    rw [AccountType.save_over (AccountType.length_of_deserialize h),
      ← AccountType.deserialize_ok.mp h]
  · intro w account old hold hlength hwritable
    -- the typed accounts are the bytes, so this is the first part once more
    have hsaved : t.save a ⟨ID, old.bytes⟩ = .ok ⟨ID, (t.pack a).bytes⟩ := by
      rw [KeelAccount.bytes_pack]
      exact AccountType.save_over (KeelAccount.length_bytes.trans hlength)
    have hpacked : (w.setKeel account.pubkey (t.pack a)).keel account.pubkey = some (t.pack a) :=
      World.setKeel_keel_self
    refine ⟨_, (save_iff_save hold).mpr ⟨hwritable, hsaved, rfl⟩, ?_, ?_⟩
    · refine (loadKeel_iff_deserialize hpacked).mpr ⟨?_, rfl⟩
      rw [KeelAccount.bytes_pack]
      exact AccountType.deserialize_encode
    · intro t' hne
      exact loadKeel_refused hpacked (AccountType.unpack_pack_ne hne)

end AlmController
